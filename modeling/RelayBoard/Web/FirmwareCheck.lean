import Mathlib.Data.Char
import Mathlib.Data.List.DropRight
import Mathlib.Data.List.Lex
import RelayBoard.Framework.CSearch
import RelayBoard.Framework.Padded

/-! # The Firmware Check

  `checkForNewFirmware` of `static-config.js` compares the versions and the build numbers
  of the firmware of the device and of `build_info.json`. The file shows that what it
  offers is newer in a strict order.
-/

open CString

namespace FirmwareCheck

/-! ### Versions -/

/-- The white space of `trim` and `parseInt`. -/
def isJsSpace (c : Char) : Bool :=
  [0x9, 0xA, 0xB, 0xC, 0xD, 0x20, 0xA0, 0x1680, 0x2028, 0x2029, 0x202F, 0x205F, 0x3000,
    0xFEFF].contains c.toNat || (0x2000 ≤ c.toNat && c.toNat ≤ 0x200A)

/-- `trim`. -/
def trim (s : CStr) : CStr := (s.dropWhile isJsSpace).rdropWhile isJsSpace

/-- `parseInt(s, 10)`; `none` is not finite. `number` is the number that an integer is read
    as, which is approximate and not finite for large ones. -/
def parseInt (number : Nat → Option Nat) (s : CStr) : Option Int :=
  let s := s.dropWhile isJsSpace
  let negative := s.head? = some '-'
  let s := if s.head? = some '-' ∨ s.head? = some '+' then s.drop 1 else s
  let digits := s.takeWhile Char.isDigit
  if digits = [] then none
  else (number (leadingNat digits)).map fun n => if negative then -(n : Int) else n

/-- `replace(/^v/i, "")`. -/
def dropV (s : CStr) : CStr :=
  if s.head? = some 'v' ∨ s.head? = some 'V' then s.drop 1 else s

/-- `normalizeVersionParts`. -/
def normalizeVersionParts (number : Nat → Option Nat) (ver : Option CStr) : List Int :=
  match ver with
  | none => []
  | some ver =>
      let main := (dropV (trim ver)).takeWhile fun c => c ≠ '-'
      (main.splitOn '.').map fun p => (parseInt number p).getD 0

/-- `compareSemver`. -/
def compareSemver (number : Nat → Option Nat) (a b : Option CStr) : Int :=
  Padded.compare 0 (normalizeVersionParts number a) (normalizeVersionParts number b)

/-- `normalizeBuildNum`. -/
def normalizeBuildNum (bn : Option CStr) : CStr :=
  match bn with
  | none => []
  | some bn => (trim bn).filter Char.isDigit

/-- A small number is read exactly. -/
example : compareSemver some (some "v1.10".toList) (some " 1.9.3-rc1".toList) = 1 := by
  decide +kernel

/-! ### The Check -/

/-- `window.RelayBoardConfig`. -/
structure RelayBoardConfig where
  swVersionNum : Option CStr
  swBuildNum : Option CStr

/-- The fields of `build_info.json` that are read. -/
structure BuildInfo where
  deviceSwVersionNum : Option CStr
  versionNum : Option CStr
  version : Option CStr
  deviceSwBuildNum : Option CStr
  buildNum : Option CStr
  build : Option CStr

/-- `a || b || c`: the first that is not missing and not empty. -/
def firstTruthy (values : List (Option CStr)) : Option CStr :=
  (values.find? fun value => value.getD [] ≠ []).join

/-- What the page says. -/
inductive Verdict where
  | incomplete
  | newer (version build : CStr)
  | upToDate
  deriving DecidableEq, Repr

/-- `checkForNewFirmware`, once `build_info.json` has arrived. -/
def checkForNewFirmware (number : Nat → Option Nat) (config : RelayBoardConfig)
    (info : Option BuildInfo) : Verdict :=
  let curVer := trim (config.swVersionNum.getD [])
  let curBuild := normalizeBuildNum config.swBuildNum
  let remoteVer := trim ((info.bind fun info =>
    firstTruthy [info.deviceSwVersionNum, info.versionNum, info.version]).getD [])
  let remoteBuild := normalizeBuildNum (some ((info.bind fun info =>
    firstTruthy [info.deviceSwBuildNum, info.buildNum, info.build]).getD []))
  if remoteVer = [] ∨ remoteBuild = [] then .incomplete
  else
    let vcmp := compareSemver number (some curVer) (some remoteVer)
    if vcmp < 0 then .newer remoteVer remoteBuild
    else if vcmp = 0 ∧ curBuild ≠ [] ∧ remoteBuild ≠ [] ∧ curBuild < remoteBuild then
      .newer remoteVer remoteBuild
    else .upToDate

/-! ### Firmware -/

/-- A firmware, by its version and its build number. -/
structure Firmware where
  version : CStr
  build : CStr

/-- What a device with the firmware knows of it. -/
def Firmware.config (f : Firmware) : RelayBoardConfig := ⟨some f.version, some f.build⟩

/-- What is published with the firmware. -/
def Firmware.info (f : Firmware) : BuildInfo :=
  ⟨some f.version, none, none, some f.build, none, none⟩

/-- `b` is offered to a device with `a`. -/
def Offered (number : Nat → Option Nat) (a b : Firmware) : Prop :=
  ∃ version build, checkForNewFirmware number a.config (some b.info) = .newer version build

/-- The place of a version in the order of versions. -/
def Firmware.key (number : Nat → Option Nat) (f : Firmware) : Lex (ℕ → Int) :=
  Padded.key 0 (normalizeVersionParts number (some (trim f.version)))

/-- The build number as it is compared. -/
def Firmware.buildNum (f : Firmware) : CStr := normalizeBuildNum (some f.build)

variable (number : Nat → Option Nat)

/-- With one field set the others are not read. -/
theorem firstTruthy_some (s : CStr) : (firstTruthy [some s, none, none]).getD [] = s := by
  unfold firstTruthy
  by_cases h : s = []
  · simp [h]
  · simp [h]

/-- An offer is a higher version, or the same one with a higher build number. -/
theorem offered_iff (a b : Firmware) : Offered number a b ↔
    trim b.version ≠ [] ∧ b.buildNum ≠ [] ∧ (a.key number < b.key number ∨
      a.key number = b.key number ∧ a.buildNum ≠ [] ∧ a.buildNum < b.buildNum) := by
  unfold Offered checkForNewFirmware Firmware.config Firmware.info
  simp only [Option.bind_some, firstTruthy_some, Option.getD_some]
  by_cases hmissing : trim b.version = [] ∨ normalizeBuildNum (some b.build) = []
  · rw [if_pos hmissing]
    constructor
    · rintro ⟨_, _, h⟩
      cases h
    · rintro ⟨hversion, hbuild, _⟩
      exact absurd hmissing (not_or.mpr ⟨hversion, hbuild⟩)
  · rw [if_neg hmissing]
    obtain ⟨hversion, hbuild⟩ := not_or.mp hmissing
    by_cases hlt : compareSemver number (some (trim a.version)) (some (trim b.version)) < 0
    · rw [if_pos hlt]
      exact ⟨fun _ => ⟨hversion, hbuild, .inl (Padded.compare_neg_iff.mp hlt)⟩,
        fun _ => ⟨_, _, rfl⟩⟩
    · rw [if_neg hlt]
      have hkey : ¬ a.key number < b.key number := mt Padded.compare_neg_iff.mpr hlt
      by_cases hbuilds : compareSemver number (some (trim a.version)) (some (trim b.version)) = 0 ∧
          normalizeBuildNum (some a.build) ≠ [] ∧ normalizeBuildNum (some b.build) ≠ [] ∧
            normalizeBuildNum (some a.build) < normalizeBuildNum (some b.build)
      · rw [if_pos hbuilds]
        obtain ⟨hzero, ha, _, hlower⟩ := hbuilds
        exact ⟨fun _ => ⟨hversion, hbuild, .inr ⟨Padded.compare_eq_zero_iff.mp hzero, ha, hlower⟩⟩,
          fun _ => ⟨_, _, rfl⟩⟩
      · rw [if_neg hbuilds]
        constructor
        · rintro ⟨_, _, h⟩
          cases h
        · rintro ⟨_, _, h | ⟨heq, ha, hlower⟩⟩
          · exact absurd h hkey
          · exact absurd ⟨Padded.compare_eq_zero_iff.mpr heq, ha, hbuild, hlower⟩ hbuilds

theorem offered_irrefl (a : Firmware) : ¬ Offered number a a := by
  rw [offered_iff]
  rintro ⟨_, _, hversion | ⟨_, _, hbuild⟩⟩
  · exact lt_irrefl _ hversion
  · exact lt_irrefl _ hbuild

/-- An offer leads to a firmware whose offers are offers already. -/
theorem offered_trans {a b c : Firmware} (hab : Offered number a b)
    (hbc : Offered number b c) : Offered number a c := by
  rw [offered_iff] at hab hbc ⊢
  obtain ⟨_, _, hab⟩ := hab
  obtain ⟨hversion, hbuild, hbc⟩ := hbc
  refine ⟨hversion, hbuild, ?_⟩
  rcases hab with hab | ⟨hab, ha, hlower⟩
  · rcases hbc with hbc | ⟨hbc, _, _⟩
    · exact .inl (hab.trans hbc)
    · exact .inl (hab.trans_eq hbc)
  · rcases hbc with hbc | ⟨hbc, _, hlower'⟩
    · exact .inl (hab.trans_lt hbc)
    · exact .inr ⟨hab.trans hbc, ha, hlower.trans hlower'⟩

/-- **A strict order**: versions are compared in a total preorder, and what is offered is
    newer in a strict order. -/
theorem newerFirmware_strict :
    (∀ a, compareSemver number a a = 0) ∧
    (∀ a b, compareSemver number b a = -compareSemver number a b) ∧
    (∀ a b c, compareSemver number a b ≤ 0 → compareSemver number b c ≤ 0 →
      compareSemver number a c ≤ 0) ∧
    (∀ a, ¬ Offered number a a) ∧
    (∀ a b, Offered number a b → ¬ Offered number b a) ∧
    (∀ a b c, Offered number a b → Offered number b c → Offered number a c) := by
  refine ⟨fun a => Padded.compare_self _, fun a b => Padded.compare_swap _ _,
    fun a b c => Padded.compare_trans, offered_irrefl number, fun a b hab hba => ?_,
    fun a b c => offered_trans number⟩
  exact offered_irrefl number a (offered_trans number hab hba)

end FirmwareCheck
