import RelayBoard.Framework.CString
import RelayBoard.Platform.Esp

/-! # Non-Volatile Storage

  `components/ESP32_NVS`: typed values under a namespace and a key. Each
  single write is atomic. Blobs are read into a structure of the reader, so
  a store is taken over the type `Blob` of the structures stored in it.
-/

open CString

namespace Nvs

/-- A stored value with its NVS type. -/
inductive Value (Blob : Type) where
  | u16 (n : Nat)
  | u32 (n : Nat)
  | str (s : CStr)
  | blob (b : Blob)
  deriving DecidableEq, Repr

/-- The content of the NVS partition, by namespace and key. -/
abbrev Store (Blob : Type) : Type := CStr → CStr → Option (Value Blob)

/-- A key has at most 15 characters. -/
def keyMaxLength : Nat := 15

variable {Blob : Type}

/-- The erased partition. -/
def empty : Store Blob := fun _ _ => none

/-- The store after `value` has been written under `ns` and `key`. -/
def set (nvs : Store Blob) (ns key : CStr) (value : Value Blob) : Store Blob :=
  fun ns' key' => if ns' = ns ∧ key' = key then some value else nvs ns' key'

@[simp] theorem empty_apply (ns key : CStr) : (empty : Store Blob) ns key = none := rfl

@[simp] theorem set_self (nvs : Store Blob) (ns key : CStr) (value : Value Blob) :
    set nvs ns key value ns key = some value := by
  simp [set]

theorem set_ne (nvs : Store Blob) (ns key key' : CStr) (value : Value Blob)
    (h : key' ≠ key) : set nvs ns key value ns key' = nvs ns key' := by
  simp [set, h]

theorem set_apply (nvs : Store Blob) (ns key key' : CStr) (value : Value Blob) :
    set nvs ns key value ns key' = if key' = key then some value else nvs ns key' := by
  simp [set]

/-! ### Sequences of Writes -/

/-- The store after a sequence of writes in one namespace. -/
def setAll (nvs : Store Blob) (ns : CStr) (writes : List (CStr × Value Blob)) : Store Blob :=
  writes.foldl (fun nvs w => set nvs ns w.1 w.2) nvs

@[simp] theorem setAll_nil (nvs : Store Blob) (ns : CStr) : setAll nvs ns [] = nvs := rfl

@[simp] theorem setAll_cons (nvs : Store Blob) (ns : CStr) (w : CStr × Value Blob)
    (writes : List (CStr × Value Blob)) :
    setAll nvs ns (w :: writes) = setAll (set nvs ns w.1 w.2) ns writes := rfl

theorem setAll_append (nvs : Store Blob) (ns : CStr) (ws ws' : List (CStr × Value Blob)) :
    setAll nvs ns (ws ++ ws') = setAll (setAll nvs ns ws) ns ws' :=
  List.foldl_append

/-- What is not written keeps its value. -/
theorem setAll_of_ne {nvs : Store Blob} {ns ns' key : CStr}
    {writes : List (CStr × Value Blob)} (h : ns' = ns → ∀ w ∈ writes, w.1 ≠ key) :
    setAll nvs ns writes ns' key = nvs ns' key := by
  induction writes generalizing nvs with
  | nil => rfl
  | cons w writes ih =>
      have hhead : ¬ (ns' = ns ∧ key = w.1) := by
        rintro ⟨hns, hkey⟩
        exact h hns w List.mem_cons_self hkey.symm
      rw [setAll_cons, ih (fun hns w' hw' => h hns w' (List.mem_cons_of_mem _ hw')), set,
        if_neg hhead]

/-- A key that is not written keeps its value. -/
theorem setAll_of_not_mem {nvs : Store Blob} {ns key : CStr}
    {writes : List (CStr × Value Blob)} (h : ∀ w ∈ writes, w.1 ≠ key) :
    setAll nvs ns writes ns key = nvs ns key :=
  setAll_of_ne (fun _ => h)

/-- With distinct keys every value written is there in the end. -/
theorem setAll_of_mem {nvs : Store Blob} {ns key : CStr} {value : Value Blob}
    {writes : List (CStr × Value Blob)} (hnodup : (writes.map Prod.fst).Nodup)
    (hmem : (key, value) ∈ writes) : setAll nvs ns writes ns key = some value := by
  induction writes generalizing nvs with
  | nil => exact absurd hmem List.not_mem_nil
  | cons w writes ih =>
      rw [List.map_cons, List.nodup_cons] at hnodup
      rw [setAll_cons]
      rcases List.mem_cons.mp hmem with rfl | hmem
      · -- the later writes are under other keys
        rw [setAll_of_not_mem, set_self]
        rintro w' hw' rfl
        exact hnodup.1 (List.mem_map.mpr ⟨w', hw', rfl⟩)
      · exact ih hnodup.2 hmem

/-- Writes under distinct keys: each of the first `j` keys holds its new value. -/
theorem setAll_range {nvs : Store Blob} {ns : CStr} {key : Nat → CStr}
    {value : Nat → Value Blob} {n : Nat}
    (hinj : ∀ i j, i < n → j < n → key i = key j → i = j) {j : Nat} (hj : j ≤ n) {i : Nat}
    (hi : i < n) :
    setAll nvs ns ((List.range j).map fun k => (key k, value k)) ns (key i) =
      if i < j then some (value i) else nvs ns (key i) := by
  induction j with
  | zero => simp
  | succ j ih =>
      rw [List.range_succ, List.map_append, setAll_append]
      show set _ ns (key j) (value j) ns (key i) = _
      rw [set_apply, ih (by omega)]
      by_cases hij : i = j
      · rw [hij, if_pos rfl, if_pos (by omega)]
      · have hne : key i ≠ key j := fun h => hij (hinj i j hi (by omega) h)
        rw [if_neg hne]
        by_cases hlt : i < j
        · rw [if_pos hlt, if_pos (by omega)]
        · rw [if_neg hlt, if_neg (by omega)]

/-- Writes under keys that may meet: each key holds the value of its last write. -/
theorem setAll_range_last (nvs : Store Blob) (ns : CStr) (key : Nat → CStr)
    (value : Nat → Value Blob) {n i : Nat} (hi : i < n) :
    ∃ j, i ≤ j ∧ j < n ∧ key j = key i ∧
      setAll nvs ns ((List.range n).map fun k => (key k, value k)) ns (key i) =
        some (value j) := by
  induction n with
  | zero => omega
  | succ n ih =>
      have hlast : setAll nvs ns ((List.range (n + 1)).map fun k => (key k, value k)) ns (key i) =
          if key i = key n then some (value n)
          else setAll nvs ns ((List.range n).map fun k => (key k, value k)) ns (key i) := by
        rw [List.range_succ, List.map_append, setAll_append]
        exact set_apply _ _ _ _ _
      rw [hlast]
      by_cases hkey : key i = key n
      · exact ⟨n, by omega, by omega, hkey.symm, if_pos hkey⟩
      · have hin : i ≠ n := fun h => hkey (by rw [h])
        obtain ⟨j, hij, hjn, hj, hst⟩ := ih (by omega)
        exact ⟨j, hij, by omega, hj, by rw [if_neg hkey, hst]⟩

/-! ### Reads -/

/-- `nvs_read_uint16`. -/
def readUint16 (nvs : Store Blob) (ns key : CStr) : Except EspErr Nat :=
  match nvs ns key with
  | some (.u16 n) => .ok n
  | some _ => .error .nvsTypeMismatch
  | none => .error .nvsNotFound

/-- `nvs_read_uint32`. -/
def readUint32 (nvs : Store Blob) (ns key : CStr) : Except EspErr Nat :=
  match nvs ns key with
  | some (.u32 n) => .ok n
  | some _ => .error .nvsTypeMismatch
  | none => .error .nvsNotFound

/-- `nvs_read_string`. -/
def readString (nvs : Store Blob) (ns key : CStr) : Except EspErr CStr :=
  match nvs ns key with
  | some (.str s) => .ok s
  | some _ => .error .nvsTypeMismatch
  | none => .error .nvsNotFound

/-- `nvs_read_blob`. -/
def readBlob (nvs : Store Blob) (ns key : CStr) : Except EspErr Blob :=
  match nvs ns key with
  | some (.blob b) => .ok b
  | some _ => .error .nvsTypeMismatch
  | none => .error .nvsNotFound

theorem readUint16_eq_ok_iff {nvs : Store Blob} {ns key : CStr} {n : Nat} :
    readUint16 nvs ns key = .ok n ↔ nvs ns key = some (.u16 n) := by
  unfold readUint16
  split <;> simp_all

theorem readString_eq_ok_iff {nvs : Store Blob} {ns key s : CStr} :
    readString nvs ns key = .ok s ↔ nvs ns key = some (.str s) := by
  unfold readString
  split <;> simp_all

end Nvs
