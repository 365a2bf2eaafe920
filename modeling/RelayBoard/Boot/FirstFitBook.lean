import RelayBoard.Boot.UnitBook

/-! # Books Filled by First Fit

  Without pin updates the stored pins are a prefix of the safe pins, as long
  as provisioning counts every stored unit. A unit that is stored but not
  counted makes provisioning hand out its pin again.
-/

open FirstFit Relay

namespace Boot

namespace Book

variable {book : Book} {counts : Counts}

/-! ### Pins -/

/-- The pins of all records. -/
def pins (book : Book) : List Int :=
  ((book .actuator).records ++ (book .sensor).records).map RelayUnit.gpioPin

/-- The pins of the records that are not below the counts. -/
def hiddenPins (book : Book) (counts : Counts) : List Int :=
  ((book .actuator).records.drop (counts .actuator) ++
    (book .sensor).records.drop (counts .sensor)).map RelayUnit.gpioPin

/-- The records have the first safe pins, in some order. -/
def Compact (book : Book) : Prop := book.pins.Perm (safeGpioPins.take book.pins.length)

theorem compact_empty : Compact Book.empty := List.Perm.refl _

theorem Compact.nodup (h : book.Compact) : book.pins.Nodup :=
  h.nodup_iff.mpr (safeGpioPins_nodup.sublist (List.take_sublist _ _))

theorem activePins_sublist (book : Book) (counts : Counts) :
    (book.activePins counts).Sublist book.pins :=
  ((List.take_sublist _ _).append (List.take_sublist _ _)).map _

/-- All records are below the counts. -/
theorem activePins_eq_pins (h : ∀ type, (book type).records.length ≤ counts type) :
    book.activePins counts = book.pins := by
  unfold activePins active pins
  rw [List.take_of_length_le (h .actuator), List.take_of_length_le (h .sensor)]

/-- Each record is active or hidden. -/
theorem pins_perm (book : Book) (counts : Counts) :
    book.pins.Perm (book.activePins counts ++ book.hiddenPins counts) := by
  unfold pins activePins hiddenPins active
  rw [← List.map_append]
  apply List.Perm.map
  have hact := List.take_append_drop (counts .actuator) (book .actuator).records
  have hsens := List.take_append_drop (counts .sensor) (book .sensor).records
  -- the dropped actuators and the taken sensors change places
  have hswap : ∀ a b c d : List RelayUnit, ((a ++ b) ++ (c ++ d)).Perm ((a ++ c) ++ (b ++ d)) := by
    intro a b c d
    rw [List.append_assoc, List.append_assoc]
    apply List.Perm.append_left
    rw [← List.append_assoc, ← List.append_assoc]
    exact List.perm_append_comm.append_right d
  have hperm := hswap ((book .actuator).records.take (counts .actuator))
    ((book .actuator).records.drop (counts .actuator))
    ((book .sensor).records.take (counts .sensor))
    ((book .sensor).records.drop (counts .sensor))
  rwa [hact, hsens] at hperm

/-- A push adds one pin. -/
theorem pins_push (book : Book) (type : RelayType) (pin : Int) :
    (book.push type pin).pins.Perm (pin :: book.pins) := by
  unfold pins
  cases type with
  | actuator =>
      rw [push_self, push_ne _ _ (by decide), Shelf.push_records, List.append_assoc,
        List.map_append, List.map_append, List.map_append]
      exact List.perm_middle
  | sensor =>
      rw [push_self, push_ne _ _ (by decide), Shelf.push_records, ← List.append_assoc,
        List.map_append]
      exact List.perm_append_singleton pin _

/-! ### Provisioning Without Hidden Records -/

/-- When every record is active, the next pin extends the prefix. -/
theorem Compact.push (h : book.Compact) (hcounts : ∀ type, counts type < channelLimit type)
    (hfit : ∀ type, (book type).records.length ≤ counts type) (type : RelayType) :
    (book.push type (book.nextPin counts)).Compact := by
  have hactive := activePins_eq_pins hfit
  have hlt : book.pins.length < safeGpioPins.length := by
    rw [← hactive]
    exact book.length_activePins_lt hcounts
  have hnext : book.nextPin counts = safeGpioPins[book.pins.length] := by
    unfold nextPin
    rw [hactive, firstFree_of_perm_take safeGpioPins_nodup hlt h]
    rfl
  have hperm := book.pins_push type (book.nextPin counts)
  have hlen : (book.push type (book.nextPin counts)).pins.length = book.pins.length + 1 :=
    hperm.length_eq
  unfold Compact
  rw [hlen]
  rw [hnext] at hperm ⊢
  exact hperm.trans (perm_take_succ hlt h)

/-- A stretch of turns keeps a book compact whose records are all active. -/
theorem Compact.foldl (h : book.Compact) (hcounts : ∀ type, counts type < channelLimit type)
    (hfit : ∀ type, (book type).records.length ≤ counts type) {type : RelayType} {j n : Nat}
    (hn : j + n ≤ counts type) (hle : j ≤ (book type).records.length) :
    ((List.range' j n).foldl (provisionUnit counts type) book).Compact ∧
      ∀ type', ((List.range' j n).foldl (provisionUnit counts type) book type').records.length ≤
        counts type' := by
  induction n generalizing j book with
  | zero => exact ⟨h, hfit⟩
  | succ n ih =>
      rw [List.range'_succ, List.foldl_cons]
      have hlt := book.lt_length_provisionUnit counts type hle
      have hturn : (book.provisionUnit counts type j).Compact ∧
          ∀ type', (book.provisionUnit counts type j type').records.length ≤
            counts type' := by
        unfold provisionUnit
        split
        · exact ⟨h, hfit⟩
        · refine ⟨h.push hcounts hfit type, ?_⟩
          intro type'
          by_cases htype : type' = type
          · subst htype
            rw [push_self, Shelf.push_records, List.length_append, List.length_singleton]
            omega
          · rw [push_ne _ _ htype]
            exact hfit type'
      exact ih hturn.1 hturn.2 (by omega) hlt

/-- Provisioning a compact book without hidden records keeps it compact. -/
theorem Compact.provision (h : book.Compact)
    (hcounts : ∀ type, counts type < channelLimit type)
    (hfit : ∀ type, (book type).records.length ≤ counts type) :
    (book.provision counts).Compact := by
  have hloop : ∀ {book : Book} (type : RelayType), book.Compact →
      (∀ type', (book type').records.length ≤ counts type') →
      (book.provisionType counts type).Compact ∧
        ∀ type', (book.provisionType counts type type').records.length ≤ counts type' := by
    intro book type hbook hbookFit
    unfold provisionType
    rw [List.range_eq_range']
    exact hbook.foldl hcounts hbookFit (by omega) (Nat.zero_le _)
  obtain ⟨hact, hactFit⟩ := hloop .actuator h hfit
  exact (hloop .sensor hact hactFit).1

/-! ### Provisioning With Both -/

/-- A shelf stays within the channels that have a key. -/
theorem Grows.length_lt {book' : Book} (h : Grows counts book book')
    (hcounts : ∀ type, counts type < channelLimit type)
    (hlen : ∀ type, (book type).records.length < channelLimit type) (type : RelayType) :
    (book' type).records.length < channelLimit type := by
  rcases Nat.lt_or_ge (book type).records.length (book' type).records.length with hlt | hge
  · have hlast : (book' type).records.length - 1 < (book' type).records.length := by omega
    have hi := (h.added type _ _ (List.getElem?_eq_getElem hlast) (by omega)).1
    have := hcounts type
    omega
  · have := hlen type
    omega

/-- The first record a loop creates gets the next pin of the book before it. -/
theorem getElem?_provisionType (hcounts : ∀ type, counts type < channelLimit type)
    {type : RelayType} (hmissing : (book type).records.length < counts type) :
    (book.provisionType counts type type).records[(book type).records.length]? =
      some (freshUnit type (book type).records.length (book.nextPin counts)) := by
  obtain ⟨n, hn⟩ : ∃ n, counts type = (book type).records.length + (n + 1) :=
    ⟨counts type - (book type).records.length - 1, by omega⟩
  have hsplit : List.range (counts type) = List.range (book type).records.length ++
      List.range' (book type).records.length (n + 1) := by
    have happ := List.range'_append_1 (s := 0) (m := (book type).records.length) (n := n + 1)
    rw [Nat.zero_add] at happ
    rw [hn, List.range_eq_range', List.range_eq_range', happ]
  have hold : (List.range (book type).records.length).foldl
      (provisionUnit counts type) book = book :=
    foldl_provisionUnit_eq_self fun i hi => List.mem_range.mp hi
  have hturn : book.provisionUnit counts type (book type).records.length =
      book.push type (book.nextPin counts) :=
    if_neg (Nat.lt_irrefl _)
  have hlen : (book.push type (book.nextPin counts) type).records.length =
      (book type).records.length + 1 := by
    rw [push_self, Shelf.push_records, List.length_append, List.length_singleton]
  -- the later turns keep the new record
  have hgrows := ((book.push type (book.nextPin counts)).grows_foldl hcounts type
    (j := (book type).records.length + 1) (n := n) (by omega) (by omega)).1
  unfold provisionType
  rw [hsplit, List.foldl_append, hold, List.range'_succ, List.foldl_cons, hturn,
    hgrows.getElem? (by omega)]
  exact book.getElem?_push_self type _

/-- The pin of that record is the pin of a hidden one. -/
theorem nextPin_mem_hiddenPins (h : book.Compact)
    (hcounts : ∀ type, counts type < channelLimit type)
    (hhidden : book.hiddenPins counts ≠ []) :
    book.nextPin counts ∈ book.hiddenPins counts := by
  have hperm := book.pins_perm counts
  have hdisjoint := List.disjoint_of_nodup_append (hperm.nodup_iff.mp h.nodup)
  obtain ⟨pin, hpin⟩ := List.exists_mem_of_ne_nil _ hhidden
  obtain ⟨next, hnext⟩ := exists_firstFree safeGpioPins_nodup
    (book.length_activePins_lt hcounts)
  have heq : book.nextPin counts = next := by
    unfold nextPin
    rw [hnext]
    rfl
  -- the hidden pin is free in the scan, so the scan ends within the stored pins
  have hfree : pin ∈ safeGpioPins.take book.pins.length :=
    h.mem_iff.mp (hperm.mem_iff.mpr (List.mem_append_right _ hpin))
  have hmem := firstFree_mem_take hfree (fun hin => hdisjoint hin hpin) hnext
  have hstored := hperm.mem_iff.mp (h.mem_iff.mpr hmem)
  rw [heq]
  rcases List.mem_append.mp hstored with hin | hin
  · exact absurd hin (firstFree_not_mem hnext)
  · exact hin

/-- The record a boot creates first is there after the boot. -/
theorem getElem?_provision (hcounts : ∀ type, counts type < channelLimit type)
    {type type' : RelayType} (hmissing : (book type).records.length < counts type)
    (hhidden : counts type' < (book type').records.length) :
    (book.provision counts type).records[(book type).records.length]? =
      some (freshUnit type (book type).records.length (book.nextPin counts)) := by
  have hget := book.getElem?_provisionType hcounts hmissing
  unfold provision
  match type, type' with
  | .actuator, _ =>
      have hsensors := ((book.provisionType counts .actuator).grows_provisionType hcounts
        .sensor).1
      rw [hsensors.getElem? (List.getElem?_eq_some_iff.mp hget).1]
      exact hget
  | .sensor, .actuator =>
      -- the actuator loop finds all its records
      rw [provisionType_eq_self (Nat.le_of_lt hhidden)]
      exact hget
  | .sensor, .sensor => omega

/-- A record of each type, on one pin. -/
def Clash (book : Book) : Prop :=
  ∃ actuator ∈ (book .actuator).records, ∃ sensor ∈ (book .sensor).records,
    actuator.gpioPin = sensor.gpioPin

/-- **Reuse**: provisioning with both missing and hidden records stores two units
    on one pin. -/
theorem clash_provision (h : book.Compact) (hcounts : ∀ type, counts type < channelLimit type)
    {type type' : RelayType} (hmissing : (book type).records.length < counts type)
    (hhidden : counts type' < (book type').records.length) :
    (book.provision counts).Clash := by
  have hfresh := List.mem_of_getElem? (book.getElem?_provision hcounts hmissing hhidden)
  have hne : book.hiddenPins counts ≠ [] := by
    intro hnil
    unfold hiddenPins at hnil
    rw [List.map_eq_nil_iff, List.append_eq_nil_iff, List.drop_eq_nil_iff,
      List.drop_eq_nil_iff] at hnil
    cases type' with
    | actuator => exact absurd hnil.1 (by omega)
    | sensor => exact absurd hnil.2 (by omega)
  obtain ⟨other, hother, hpin⟩ := List.mem_map.mp (nextPin_mem_hiddenPins h hcounts hne)
  have hkept : ∀ type, (book type).records ⊆ (book.provision counts type).records :=
    fun type => ((book.grows_provision hcounts).1.kept type).subset
  rcases List.mem_append.mp hother with hother | hother
  · -- a hidden actuator, so a sensor is missing
    cases type with
    | actuator =>
        rw [List.drop_eq_nil_of_le (by omega)] at hother
        cases hother
    | sensor => exact ⟨other, hkept _ (List.mem_of_mem_drop hother), _, hfresh, hpin⟩
  · cases type with
    | actuator => exact ⟨_, hfresh, other, hkept _ (List.mem_of_mem_drop hother), hpin.symm⟩
    | sensor =>
        rw [List.drop_eq_nil_of_le (by omega)] at hother
        cases hother

/-- With every record active, a clash shows in the active pins. -/
theorem Clash.not_nodup (h : book.Clash)
    (hfit : ∀ type, (book type).records.length ≤ counts type) :
    ¬ (book.activePins counts).Nodup := by
  obtain ⟨actuator, hact, sensor, hsens, hpin⟩ := h
  rw [activePins_eq_pins hfit]
  unfold pins
  rw [List.map_append]
  intro hnodup
  apply List.disjoint_of_nodup_append hnodup (List.mem_map_of_mem hact)
  rw [hpin]
  exact List.mem_map_of_mem hsens

end Book

end Boot
