import RelayBoard.Framework.CString

/-! # JSON Items

  The items cJSON parses a request body into, and the accessors the handlers
  use on them. A number is the exact value of its `double`; an infinity, which
  cJSON reads from a literal beyond the range of `double`, compares and
  converts like any number beyond the range of `int`.
-/

open CString

/-- A `cJSON` item. -/
inductive Json where
  | null
  | bool (b : Bool)
  | number (x : Rat)
  | string (s : CStr)
  | array (items : List Json)
  | object (members : List (CStr × Json))

namespace Json

/-! ### Numbers -/

def intMax : Int := 2147483647
def intMin : Int := -2147483648

/-- A `double` as an `int`: truncated toward zero and saturated. -/
def toInt (x : Rat) : Int := max intMin (min intMax (x.num.tdiv x.den))

/-- `item->valueint`; `true` carries a 1. -/
def valueint : Json → Int
  | .number x => toInt x
  | .bool true => 1
  | _ => 0

/-- `item->valuedouble`. -/
def valuedouble : Json → Rat
  | .number x => x
  | _ => 0

/-- `cJSON_IsNumber`. -/
def isNumber : Json → Bool
  | .number _ => true
  | _ => false

/-- `cJSON_IsBool`. -/
def isBool : Json → Bool
  | .bool _ => true
  | _ => false

/-- `(int)item->valuedouble`. -/
def intOfDouble (v : Json) : Int := toInt v.valuedouble

/-- `(uint16_t)item->valuedouble`. -/
def uint16OfDouble (v : Json) : Nat := (v.intOfDouble % 65536).toNat

/-- `(uint32_t)item->valuedouble`. -/
def uint32OfDouble (v : Json) : Nat :=
  min 4294967295 (v.valuedouble.num.tdiv v.valuedouble.den).toNat

/-! ### Strings and Objects -/

/-- `item->valuestring`; `none` is an item without a string. -/
def valuestring : Json → Option CStr
  | .string s => some s
  | _ => none

/-- `strcasecmp(a, b) == 0`. -/
def caseInsensitiveEq (a b : CStr) : Bool := a.map Char.toLower = b.map Char.toLower

/-- `cJSON_GetObjectItem`: the first member whose name matches up to case. -/
def getObjectItem (object : Json) (name : CStr) : Option Json :=
  match object with
  | .object members =>
      (members.find? fun member => caseInsensitiveEq name member.1).map Prod.snd
  | _ => none

/-- `cJSON_GetObjectItemCaseSensitive`. -/
def getObjectItemCaseSensitive (object : Json) (name : CStr) : Option Json :=
  match object with
  | .object members => (members.find? fun member => name = member.1).map Prod.snd
  | _ => none

/-- `cJSON_ArrayForEach`: the children of an item with their names. The elements of
    an array have none. -/
def children : Json → List (Option CStr × Json)
  | .object members => members.map fun member => (some member.1, member.2)
  | .array items => items.map fun item => (none, item)
  | _ => []

/-! ### Strings and Members -/

theorem eq_string {v : Json} {s : CStr} (h : v.valuestring = some s) : v = .string s := by
  cases v with
  | string t =>
      cases h
      rfl
  | _ => cases h

/-- The first member is found under its name. -/
theorem getObjectItem_head (name : CStr) (v : Json) (members : List (CStr × Json)) :
    (object ((name, v) :: members)).getObjectItem name = some v := by
  unfold getObjectItem caseInsensitiveEq
  simp

/-! ### Whole Numbers -/

theorem toInt_intCast {n : Int} (hlo : intMin ≤ n) (hhi : n ≤ intMax) :
    toInt (n : Rat) = n := by
  unfold toInt
  rw [Rat.num_intCast, Rat.den_intCast, Int.natCast_one, Int.tdiv_one]
  unfold intMin intMax at *
  omega

theorem toInt_natCast {n : Nat} (hhi : n ≤ 2147483647) : toInt (n : Rat) = n := by
  have h := toInt_intCast (n := (n : Int)) (by unfold intMin; omega) (by unfold intMax; omega)
  rwa [Rat.intCast_natCast] at h

theorem exists_of_isNumber {v : Json} (h : v.isNumber = true) : ∃ x, v = .number x := by
  cases v with
  | number x => exact ⟨x, rfl⟩
  | _ => cases h

/-- Within its range a number is only truncated. -/
theorem toInt_of_range {x : Rat} (hlo : 0 ≤ toInt x) (hhi : toInt x < intMax) :
    toInt x = x.num.tdiv x.den := by
  unfold toInt at *
  unfold intMin intMax at *
  omega

/-- The two readings of a number agree. -/
theorem valueint_of_isNumber {v : Json} (h : v.isNumber = true) :
    v.valueint = v.intOfDouble := by
  cases v with
  | number x => rfl
  | _ => cases h

theorem uint16OfDouble_of_range {v : Json} (hlo : 0 ≤ v.intOfDouble)
    (hhi : v.intOfDouble ≤ 65535) : (v.uint16OfDouble : Int) = v.intOfDouble := by
  unfold uint16OfDouble
  rw [Int.emod_eq_of_lt hlo (by omega), Int.toNat_of_nonneg hlo]

theorem uint16OfDouble_natCast {n : Nat} (hhi : n ≤ 65535) :
    (Json.number (n : Rat)).uint16OfDouble = n := by
  have hint : (Json.number (n : Rat)).intOfDouble = n := toInt_natCast (by omega)
  have h := uint16OfDouble_of_range (v := .number (n : Rat)) (by omega) (by omega)
  omega

/-- A number whose `int` is not saturated. -/
theorem uint32OfDouble_of_range {v : Json} (hlo : 0 ≤ v.intOfDouble)
    (hhi : v.intOfDouble < intMax) : (v.uint32OfDouble : Int) = v.intOfDouble := by
  unfold uint32OfDouble intOfDouble toInt at *
  unfold intMin intMax at *
  omega

theorem uint32OfDouble_natCast {n : Nat} (hhi : n ≤ 4294967295) :
    (Json.number (n : Rat)).uint32OfDouble = n := by
  have htrunc : (n : Rat).num.tdiv (n : Rat).den = n := by
    rw [Rat.num_natCast, Rat.den_natCast, Int.natCast_one, Int.tdiv_one]
  unfold uint32OfDouble valuedouble
  rw [htrunc]
  omega

end Json
