import Mathlib
import BleBeacon.Hci.Command
import BleBeacon.Proofs.Bytes
import BleBeacon.Proofs.Text.Hex

/-!
Commands as packets.  A packet holds its opcode with the low byte first and counts its parameters,
as long as a byte can count them.  The commands that set up advertising and scanning are told byte
by byte.  Advertising data that a controller takes becomes a packet that holds it as it is, behind
the opcode and the number of its bytes.
-/

namespace BleBeacon.Hci

/-! ## Bytes of commands -/

/-- The bytes of a word, the lower one first. -/
def lowFirst (n : UInt16) : Bytes :=
  [UInt8.ofNat (n.toNat % 256), UInt8.ofNat (n.toNat / 256)]

theorem ofNatLE_eq_lowFirst (n : UInt16) : Bytes.ofNatLE 2 n.toNat = lowFirst n := by
  have hlow : UInt8.ofNat n.toNat = UInt8.ofNat (n.toNat % 256) := by
    apply UInt8.toNat_inj.mp
    rw [UInt8.toNat_ofNat', UInt8.toNat_ofNat']
    omega
  rw [lowFirst, ← hlow]
  rfl

theorem setAdvertisingParameters_eq (intervalMin intervalMax : UInt16) :
    setAdvertisingParameters intervalMin intervalMax =
      [0x01, 0x06, 0x20, 0x0F] ++ lowFirst intervalMin ++ lowFirst intervalMax ++
        [0x03, 0x00, 0x00, 0x00, 0x00, 0x00, 0x00, 0x00, 0x00, 0x07, 0x00] := by
  rw [setAdvertisingParameters, ofNatLE_eq_lowFirst, ofNatLE_eq_lowFirst]
  rfl

theorem setAdvertisingEnable_true : setAdvertisingEnable true = [0x01, 0x0A, 0x20, 0x01, 0x01] := by
  decide

theorem setScanParameters_always : setScanParameters 0x0010 0x0010 =
    [0x01, 0x0B, 0x20, 0x07, 0x00, 0x10, 0x00, 0x10, 0x00, 0x00, 0x00] := by
  decide

theorem setScanEnable_repeating :
    setScanEnable true false = [0x01, 0x0C, 0x20, 0x02, 0x01, 0x00] := by
  decide

theorem setAdvertisingData_empty : setAdvertisingData "" = .error .noAdvertisingData := rfl

theorem setAdvertisingData_of_spells {text : String} {bytes : Bytes} (h : Hex.Spells text bytes)
    (hpos : 0 < bytes.length) (hfits : bytes.length ≤ maxAdvertisingData) :
    setAdvertisingData text = .ok ([0x01, 0x08, 0x20, UInt8.ofNat bytes.length] ++ bytes) := by
  have hnonempty : text ≠ "" := by
    rintro rfl
    cases h
    exact absurd hpos (by decide)
  unfold setAdvertisingData
  rw [if_neg hnonempty, h.decode_eq]
  change (if maxAdvertisingData < bytes.length then _ else _) = _
  rw [if_neg (Nat.not_lt.mpr hfits)]
  rfl

/-- Beacons have as many bytes of data as a controller takes. -/
theorem setAdvertisingData_of_length_eq {text : String} {bytes : Bytes} (h : Hex.Spells text bytes)
    (hlength : bytes.length = maxAdvertisingData) :
    setAdvertisingData text = .ok ([0x01, 0x08, 0x20, 0x20] ++ bytes) := by
  have hpos : 0 < bytes.length := by
    rw [hlength]
    decide
  rw [setAdvertisingData_of_spells h hpos hlength.le, hlength]
  rfl

/-! ## Commands for LE controllers -/

/-- Packets of LE controller commands: the type of a command, an opcode with 8 for its group, and a
count of the bytes that follow. -/
def IsLeCommand (packet : Bytes) : Prop :=
  ∃ low high count parameters, packet = 0x01 :: low :: high :: count :: parameters ∧
    Bytes.leNat [low, high] / 2 ^ 10 = 8 ∧ count.toNat = parameters.length

theorem toNat_opcode {group code : UInt16} (hgroup : group.toNat < 2 ^ 6)
    (hcode : code.toNat < 2 ^ 10) :
    (opcode group code).toNat = 2 ^ 10 * group.toNat + code.toNat := by
  have hshift : (group <<< 10).toNat = 2 ^ 10 * group.toNat := by
    rw [UInt16.toNat_shiftLeft, Nat.shiftLeft_eq, Nat.mul_comm]
    exact Nat.mod_eq_of_lt (by change 2 ^ 10 * group.toNat < 2 ^ 16; omega)
  rw [opcode, UInt16.toNat_or, hshift, Nat.two_pow_add_eq_or_of_lt hcode]

theorem isLeCommand_command {code : UInt16} {parameters : Bytes} (hcode : code.toNat < 2 ^ 10)
    (hlength : parameters.length < 256) : IsLeCommand (command leController code parameters) := by
  refine ⟨_, _, _, parameters, rfl, ?_, ?_⟩
  · have hlt : (opcode leController code).toNat < 256 ^ 2 := UInt16.toNat_lt _
    change Bytes.leNat (Bytes.ofNatLE 2 (opcode leController code).toNat) / 2 ^ 10 = 8
    rw [Bytes.leNat_ofNatLE, Nat.mod_eq_of_lt hlt, toNat_opcode (by decide) hcode]
    change (2 ^ 10 * 8 + code.toNat) / 2 ^ 10 = 8
    omega
  · rw [UInt8.toNat_ofNat', Nat.mod_eq_of_lt hlength]

theorem isLeCommand_setAdvertisingParameters (intervalMin intervalMax : UInt16) :
    IsLeCommand (setAdvertisingParameters intervalMin intervalMax) :=
  isLeCommand_command (by decide) (by simp)

theorem isLeCommand_setAdvertisingEnable (enable : Bool) :
    IsLeCommand (setAdvertisingEnable enable) :=
  isLeCommand_command (by decide) (by simp)

theorem isLeCommand_setScanParameters (interval window : UInt16) :
    IsLeCommand (setScanParameters interval window) :=
  isLeCommand_command (by decide) (by simp)

theorem isLeCommand_setScanEnable (enable filterDuplicates : Bool) :
    IsLeCommand (setScanEnable enable filterDuplicates) :=
  isLeCommand_command (by decide) (by simp)

/-- Data of any length that a controller takes is counted. -/
theorem isLeCommand_of_setAdvertisingData {text : String} {packet : Bytes}
    (h : setAdvertisingData text = .ok packet) : IsLeCommand packet := by
  unfold setAdvertisingData at h
  split_ifs at h
  cases hdecode : Hex.decode text with
  | error e =>
    rw [hdecode] at h
    cases h
  | ok data =>
    rw [hdecode] at h
    change (if maxAdvertisingData < data.length then _ else _) = _ at h
    split_ifs at h with hlong
    cases h
    have hfits : data.length ≤ 32 := Nat.not_lt.mp hlong
    exact isLeCommand_command (by decide) (by omega)

end BleBeacon.Hci
