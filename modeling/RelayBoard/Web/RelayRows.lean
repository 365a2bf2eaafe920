import RelayBoard.Relay.Memory
import RelayBoard.Web.TemplateLoops

/-! # Rows of the Relays Page

  The rows that `relays_get_handler` of `main/web.c` makes of the units in memory: the
  template of a row, the lookup of each channel, and the size of the list of rows.
-/

open CString Relay Settings Template

namespace Web

/-! ### Placeholders -/

/-- A name that a placeholder may have. -/
def isHoleName (name : CStr) : Bool := name != [] && name.all isNameChar

/-- The placeholders of the pages. -/
abbrev PageHole : Type := {name : CStr // isHoleName name = true}

/-- The placeholders under their names. -/
def pageNames : Names PageHole where
  name := Subtype.val
  ne_nil h := bne_iff_ne.mp (Bool.and_eq_true_iff.mp h.2).1
  chars h := (Bool.and_eq_true_iff.mp h.2).2
  injective _ _ := Subtype.ext

/-- The name between the braces of a placeholder. -/
def holeName (placeholder : CStr) : CStr := (placeholder.drop 1).dropLast

/-- Is this a placeholder of the pages? -/
def isPlaceholder (placeholder : CStr) : Bool :=
  isHoleName (holeName placeholder) &&
    placeholder == '\x7b' :: (holeName placeholder ++ ['\x7d'])

/-- The hole that a placeholder stands for. -/
def holeOf (placeholder : CStr) : PageHole :=
  if h : isHoleName (holeName placeholder) = true then ⟨holeName placeholder, h⟩
  else ⟨['_'], by decide⟩

theorem placeholder_holeOf {placeholder : CStr} (h : isPlaceholder placeholder = true) :
    pageNames.placeholder (holeOf placeholder) = placeholder := by
  unfold isPlaceholder at h
  rw [Bool.and_eq_true, beq_iff_eq] at h
  unfold holeOf
  rw [dif_pos h.1]
  exact h.2.symm

abbrev relayKey : PageHole := holeOf "\x7bRELAY_KEY\x7d".toList
abbrev relayChannel : PageHole := holeOf "\x7bRELAY_CHANNEL\x7d".toList
abbrev relayGpioPin : PageHole := holeOf "\x7bRELAY_GPIO_PIN\x7d".toList
abbrev relayInverted : PageHole := holeOf "\x7bRELAY_INVERTED\x7d".toList
abbrev relayEnabled : PageHole := holeOf "\x7bRELAY_ENABLED\x7d".toList
abbrev minRelayGpioPin : PageHole := holeOf "\x7bMIN_RELAY_GPIO_PIN\x7d".toList
abbrev maxRelayGpioPin : PageHole := holeOf "\x7bMAX_RELAY_GPIO_PIN\x7d".toList

/-- Texts for placeholders. -/
def textFillings (vars : List (CStr × CStr)) : List (PageHole × List (Piece PageHole)) :=
  vars.map fun v => (holeOf v.1, [.text v.2])

theorem templateVars_textFillings {vars : List (CStr × CStr)}
    (h : ∀ v ∈ vars, isPlaceholder v.1 = true) :
    templateVars pageNames (textFillings vars) = vars := by
  unfold templateVars textFillings
  rw [List.map_map]
  conv_rhs => rw [← List.map_id vars]
  apply List.map_congr_left
  intro v hv
  show (pageNames.placeholder (holeOf v.1), v.2 ++ []) = v
  rw [placeholder_holeOf (h v hv), List.append_nil]

/-- Texts without opening braces fill fairly, and close no hole of another name. -/
theorem fair_textFillings {vars : List (CStr × CStr)} (h : ∀ v ∈ vars, '\x7b' ∉ v.2) :
    Fair (textFillings vars) := by
  intro f hf
  obtain ⟨v, hv, rfl⟩ := List.mem_map.mp hf
  constructor
  · intro t ht
    obtain rfl : t = v.2 := by simpa using ht
    exact opensNothing_of_not_mem (h v hv)
  · rfl

theorem short_textFillings {vars : List (CStr × CStr)}
    (h : ∀ v ∈ vars, isPlaceholder v.1 = true ∧ v.2.length ≤ v.1.length) :
    Short pageNames (textFillings vars) := by
  intro f hf
  obtain ⟨v, hv, rfl⟩ := List.mem_map.mp hf
  show (v.2 ++ []).length ≤ _
  rw [placeholder_holeOf (h v hv).1, List.append_nil]
  exact (h v hv).2

theorem closed_textFillings (vars : List (CStr × CStr))
    (gs : List (PageHole × List (Piece PageHole))) : Closed (textFillings vars) gs := by
  intro f hf g _
  obtain ⟨v, _, rfl⟩ := List.mem_map.mp hf
  rfl

theorem pairwise_textFillings {vars : List (CStr × CStr)}
    (h : ((vars.map Prod.fst).map holeOf).Nodup) :
    (textFillings vars).Pairwise fun f g => f.1 ≠ g.1 := by
  rw [List.map_map] at h
  exact List.pairwise_map.mpr (List.pairwise_map.mp h)

/-! ### The Template of a Row -/

/-- `relay_table_entry.html`. -/
def relayTableEntryHtml : List (Piece PageHole) :=
  [.text "<tr>\n    <td scope=\"row\">".toList, .hole relayKey,
    .text "</td>\n    <td>".toList, .hole relayChannel,
    .text "</td>\n    <td>\n        <input type=\"number\" step=\"1\"\n".toList,
    .text "               name=\"".toList, .hole relayKey,
    .text "_gpio_pin\"\n               id=\"".toList, .hole relayKey,
    .text "_gpio_pin\"\n               value=\"".toList, .hole relayGpioPin,
    .text "\"\n               min=\"".toList, .hole minRelayGpioPin,
    .text "\" max=\"".toList, .hole maxRelayGpioPin,
    .text "\">\n    </td>\n    <td>\n        <input type=\"checkbox\"\n".toList,
    .text "               name=\"".toList, .hole relayKey,
    .text "_inverted\"\n               id=\"".toList, .hole relayKey,
    .text "_inverted\"\n               ".toList, .hole relayInverted,
    .text ">\n    </td>\n    <td>\n        <input type=\"checkbox\"\n".toList,
    .text "               name=\"".toList, .hole relayKey,
    .text "_enabled\"\n               id=\"".toList, .hole relayKey,
    .text "_enabled\"\n               ".toList, .hole relayEnabled,
    .text ">\n    </td>\n    <td>\n        <button onclick=\"".toList,
    .text "RelayBoardRelays.updateRelay(\n            '".toList, .hole relayKey,
    .text "',\n            ".toList, .hole relayChannel,
    .text ",\n            '".toList, .hole relayKey,
    .text "_gpio_pin',\n            '".toList, .hole relayKey,
    .text "_enabled',\n            '".toList, .hole relayKey,
    .text "_inverted'\n        )\">Update</button>\n".toList,
    .text "        <span id=\"status_".toList, .hole relayKey,
    .text "\"></span>\n    </td>\n</tr>\n".toList]

/-- The placeholders of a row that the handler replaces. -/
def rowPlaceholders : List CStr :=
  ["\x7bRELAY_KEY\x7d".toList, "\x7bRELAY_CHANNEL\x7d".toList,
    "\x7bRELAY_GPIO_PIN\x7d".toList, "\x7bRELAY_INVERTED\x7d".toList,
    "\x7bRELAY_ENABLED\x7d".toList]

theorem rowPlaceholders_spec : (∀ p ∈ rowPlaceholders, isPlaceholder p = true) ∧
    (rowPlaceholders.map holeOf).Nodup ∧ minRelayGpioPin ∉ rowPlaceholders.map holeOf ∧
    rowPlaceholders.map List.length = [11, 15, 16, 16, 15] := by
  unfold rowPlaceholders minRelayGpioPin
  -- the characters of a literal are known without decoding it
  repeat rewrite [String.toList_ofList]
  decide +kernel

/-- The size of the template, and its holes. -/
theorem relayTableEntryHtml_spec : (pageNames.render relayTableEntryHtml).length = 968 ∧
    Tidy relayTableEntryHtml ∧ holes minRelayGpioPin relayTableEntryHtml = 1 ∧
    rowPlaceholders.map (fun p => holes (holeOf p) relayTableEntryHtml) = [12, 2, 1, 1, 1] := by
  unfold relayTableEntryHtml rowPlaceholders relayKey relayChannel relayGpioPin relayInverted
    relayEnabled minRelayGpioPin maxRelayGpioPin
  repeat rewrite [String.toList_ofList]
  decide +kernel

/-! ### A Row -/

/-- The calls of `replace_placeholder` on `relay_table_entry`. -/
def rowVars (relayNvsKey : CStr) (relay : RelayUnit) : List (CStr × CStr) :=
  [("\x7bRELAY_KEY\x7d".toList, relayNvsKey),
    ("\x7bRELAY_CHANNEL\x7d".toList, snprintf 5 (decimal relay.channel)),
    ("\x7bRELAY_GPIO_PIN\x7d".toList, snprintf 5 (decimal relay.gpioPin)),
    ("\x7bRELAY_INVERTED\x7d".toList, if relay.inverted then "checked".toList else []),
    ("\x7bRELAY_ENABLED\x7d".toList, if relay.enabled then "checked".toList else [])]

theorem rowVars_placeholders (relayNvsKey : CStr) (relay : RelayUnit) :
    (rowVars relayNvsKey relay).map Prod.fst = rowPlaceholders := rfl

theorem isPlaceholder_rowVars (relayNvsKey : CStr) (relay : RelayUnit) :
    ∀ v ∈ rowVars relayNvsKey relay, isPlaceholder v.1 = true := by
  intro v hv
  apply rowPlaceholders_spec.1
  rw [← rowVars_placeholders relayNvsKey relay]
  exact List.mem_map_of_mem hv

/-- The row of a unit. -/
def rowPieces (relayNvsKey : CStr) (relay : RelayUnit) : List (Piece PageHole) :=
  fillAll (textFillings (rowVars relayNvsKey relay)) relayTableEntryHtml

/-- The size of the row of a unit. -/
def rowSize (relayNvsKey : CStr) (relay : RelayUnit) : Nat :=
  759 + 12 * relayNvsKey.length + 2 * (snprintf 5 (decimal relay.channel)).length +
    (snprintf 5 (decimal relay.gpioPin)).length + (if relay.inverted then 7 else 0) +
    (if relay.enabled then 7 else 0)

theorem length_rowPieces (relayNvsKey : CStr) (relay : RelayUnit) :
    (pageNames.render (rowPieces relayNvsKey relay)).length = rowSize relayNvsKey relay := by
  obtain ⟨_, hnodup, _, hlengths⟩ := rowPlaceholders_spec
  obtain ⟨hsize, _, _, hholes⟩ := relayTableEntryHtml_spec
  rw [← rowVars_placeholders relayNvsKey relay] at hnodup
  have hlen := (addsUp_length pageNames).fillAll relayTableEntryHtml
    (pairwise_textFillings hnodup) (closed_textFillings _ _)
  have hchecked : ∀ b : Bool, (if b = true then "checked".toList else []).length =
      if b = true then 7 else 0 := by
    rw [String.toList_ofList]
    decide
  have hplaceholder : ∀ p ∈ rowPlaceholders,
      (pageNames.render [.hole (holeOf p)]).length = p.length := by
    intro p hp
    rw [render_hole, render_nil, List.append_nil, placeholder_holeOf (rowPlaceholders_spec.1 p hp)]
  unfold rowPlaceholders at hholes hlengths hplaceholder
  simp only [List.map_cons, List.map_nil, List.cons.injEq, and_true, List.forall_mem_cons]
    at hholes hlengths hplaceholder
  unfold rowPieces rowSize
  simp only [textFillings, rowVars, List.map_cons, List.map_nil, List.sum_cons, List.sum_nil,
    render_text, render_nil, List.append_nil, hsize, hholes, hplaceholder, hlengths, hchecked]
    at hlen ⊢
  omega

theorem brace_not_mem_decimal (n : Int) : '\x7b' ∉ decimal n := by
  intro hmem
  cases n with
  | ofNat n => exact absurd (isDigit_of_mem_decimal hmem) (by decide)
  | negSucc n =>
      rcases List.mem_cons.mp hmem with heq | hmem
      · exact absurd heq (by decide)
      · exact absurd (isDigit_of_mem_decimal (n := n + 1) hmem) (by decide)

section row
variable {relayNvsKey : CStr} (hkey : '\x7b' ∉ relayNvsKey) (relay : RelayUnit)
include hkey

theorem fair_rowVars : Fair (textFillings (rowVars relayNvsKey relay)) := by
  have hshort : ∀ n, '\x7b' ∉ snprintf 5 (decimal n) := fun n hmem =>
    brace_not_mem_decimal n (List.mem_of_mem_take hmem)
  have hchecked : ∀ b : Bool, '\x7b' ∉ if b = true then "checked".toList else [] := by
    rw [String.toList_ofList]
    decide
  apply fair_textFillings
  unfold rowVars
  simp only [List.forall_mem_cons]
  exact ⟨hkey, hshort _, hshort _, hchecked _, hchecked _, fun v hv => absurd hv List.not_mem_nil⟩

theorem tidy_rowPieces : Tidy (rowPieces relayNvsKey relay) :=
  relayTableEntryHtml_spec.2.1.fillAll (fair_rowVars hkey relay)

/-- The loops over the entry leave the row. -/
theorem replaceAllIn_rowVars {fuel : Nat} (hfuel : 13 ≤ fuel) :
    replaceAllIn fuel (rowVars relayNvsKey relay) (pageNames.render relayTableEntryHtml) =
      some (pageNames.render (rowPieces relayNvsKey relay)) := by
  rw [← templateVars_textFillings (isPlaceholder_rowVars relayNvsKey relay)]
  apply replaceAllIn_render relayTableEntryHtml_spec.2.1 (fair_rowVars hkey relay)
  have hholes : ∀ f ∈ textFillings (rowVars relayNvsKey relay),
      holes f.1 relayTableEntryHtml < 13 := by
    intro f hf
    obtain ⟨v, hv, rfl⟩ := List.mem_map.mp hf
    have hmem := List.mem_map_of_mem (f := fun p => holes (holeOf p) relayTableEntryHtml)
      (List.mem_map_of_mem (f := Prod.fst) hv)
    rw [rowVars_placeholders, relayTableEntryHtml_spec.2.2.2] at hmem
    have hall : ∀ n ∈ [12, 2, 1, 1, 1], n < 13 := by decide
    exact hall _ hmem
  exact (turnsNeeded_le (closed_textFillings _ _) hholes).trans hfuel

end row

/-- No filling of a row has holes. -/
theorem holes_rowPieces_le (h : PageHole) (relayNvsKey : CStr) (relay : RelayUnit) :
    holes h (rowPieces relayNvsKey relay) ≤ holes h relayTableEntryHtml := by
  apply holes_fillAll_le
  intro f hf
  obtain ⟨v, _, rfl⟩ := List.mem_map.mp hf
  rfl

/-- Each row has the smallest pin in one place. -/
theorem holes_minRelayGpioPin (relayNvsKey : CStr) (relay : RelayUnit) :
    holes minRelayGpioPin (rowPieces relayNvsKey relay) = 1 := by
  rw [← relayTableEntryHtml_spec.2.2.1]
  apply holes_fillAll
  · intro f hf heq
    obtain ⟨v, hv, rfl⟩ := List.mem_map.mp hf
    apply rowPlaceholders_spec.2.2.1
    rw [← rowVars_placeholders relayNvsKey relay, heq]
    exact List.mem_map_of_mem (List.mem_map_of_mem hv)
  · intro f hf
    obtain ⟨v, _, rfl⟩ := List.mem_map.mp hf
    rfl

theorem rowSize_le {relayNvsKey : CStr} (relay : RelayUnit) (hkey : relayNvsKey.length ≤ 11) :
    rowSize relayNvsKey relay ≤ 917 := by
  have hshort : ∀ n, (snprintf 5 (decimal n)).length ≤ 4 := fun n => by
    unfold snprintf
    rw [List.length_take]
    exact Nat.min_le_left _ _
  have hchannel := hshort relay.channel
  have hpin := hshort relay.gpioPin
  unfold rowSize
  split <;> split <;> omega

/-! ### The List of Rows -/

/-- The lookup of an actuator in the loop over the channels; `none` is a missing key. -/
def findActuator (b : Board) (iChannel : Nat) : Option (CStr × Option RelayUnit) :=
  (getRelayNvsKey iChannel).map fun key =>
    (key, match getRelayActuatorFromMemoryByKey b key with
      | .ok i => b.sUnits[i]?
      | .error _ => none)

/-- The lookup of a contact sensor. -/
def findSensor (b : Board) (iChannel : Nat) : Option (CStr × Option RelayUnit) :=
  (getContactSensorNvsKey iChannel).map fun key =>
    (key, match getRelaySensorFromMemoryByKey b key with
      | .ok i => b.sUnits[i]?
      | .error _ => none)

/-- The loop over the channels: the strings built in `relays_list_html`, and whether the
    loop has got past every key. -/
def appendRows (fuel : Nat) (relayTableEntryTpl : CStr)
    (find : Nat → Option (CStr × Option RelayUnit)) :
    List Nat → CStr → Option (List CStr × Bool)
  | [], _ => some ([], true)
  | iChannel :: channels, relaysListHtml =>
      match find iChannel with
      | none => some ([], false)
      | some (_, none) => appendRows fuel relayTableEntryTpl find channels relaysListHtml
      | some (relayNvsKey, some relay) =>
          match replaceAllIn fuel (rowVars relayNvsKey relay) relayTableEntryTpl with
          | none => none
          | some relayTableEntry =>
              (appendRows fuel relayTableEntryTpl find channels
                (relaysListHtml ++ relayTableEntry)).map fun rest =>
                  ((relaysListHtml ++ relayTableEntry) :: rest.1, rest.2)

/-- The rows of the units found. -/
def rowsPieces (find : Nat → Option (CStr × Option RelayUnit)) :
    List Nat → List (Piece PageHole)
  | [] => []
  | iChannel :: channels =>
      (match find iChannel with
        | some (relayNvsKey, some relay) => rowPieces relayNvsKey relay
        | _ => []) ++ rowsPieces find channels

/-- The size of the rows of the units found. -/
def rowsSize (find : Nat → Option (CStr × Option RelayUnit)) : List Nat → Nat
  | [] => 0
  | iChannel :: channels =>
      (match find iChannel with
        | some (relayNvsKey, some relay) => rowSize relayNvsKey relay
        | _ => 0) + rowsSize find channels

/-- Lookups under keys that are short and have no braces. -/
def Keyed (find : Nat → Option (CStr × Option RelayUnit)) (channels : List Nat) : Prop :=
  ∀ iChannel ∈ channels, ∃ relayNvsKey unit, find iChannel = some (relayNvsKey, unit) ∧
    '\x7b' ∉ relayNvsKey ∧ relayNvsKey.length ≤ 11

section rows
variable {find : Nat → Option (CStr × Option RelayUnit)} {channels : List Nat}

theorem length_rowsPieces :
    (pageNames.render (rowsPieces find channels)).length = rowsSize find channels := by
  induction channels with
  | nil => rfl
  | cons iChannel channels ih =>
      unfold rowsPieces rowsSize
      rw [render_append, List.length_append, ih]
      congr 1
      split
      · exact length_rowPieces _ _
      · rfl

theorem Keyed.tail {iChannel : Nat} (h : Keyed find (iChannel :: channels)) :
    Keyed find channels := fun i hi => h i (List.mem_cons_of_mem _ hi)

theorem tidy_rowsPieces (h : Keyed find channels) : Tidy (rowsPieces find channels) := by
  induction channels with
  | nil => exact tidy_nil
  | cons iChannel channels ih =>
      obtain ⟨relayNvsKey, unit, hfind, hkey, _⟩ := h iChannel List.mem_cons_self
      unfold rowsPieces
      rw [hfind]
      apply Tidy.append _ (ih h.tail)
      cases unit with
      | none => exact tidy_nil
      | some relay => exact tidy_rowPieces hkey relay

theorem rowsSize_le (h : Keyed find channels) :
    rowsSize find channels ≤ 917 * channels.length := by
  induction channels with
  | nil => exact Nat.zero_le _
  | cons iChannel channels ih =>
      obtain ⟨relayNvsKey, unit, hfind, _, hlen⟩ := h iChannel List.mem_cons_self
      have hrest := ih h.tail
      unfold rowsSize
      rw [hfind, List.length_cons]
      cases unit with
      | none =>
          show 0 + _ ≤ _
          omega
      | some relay =>
          have := rowSize_le relay hlen
          show rowSize relayNvsKey relay + _ ≤ _
          omega

/-- Rows have only the holes of their template. -/
theorem holes_rowsPieces {h : PageHole} (hnone : holes h relayTableEntryHtml = 0) :
    holes h (rowsPieces find channels) = 0 := by
  induction channels with
  | nil => rfl
  | cons iChannel channels ih =>
      unfold rowsPieces
      rw [holes_append, ih, Nat.add_zero]
      split
      · next relayNvsKey relay _ =>
          have := holes_rowPieces_le h relayNvsKey relay
          omega
      · rfl

/-- The rows are no larger than their holes for the smallest pin allow. -/
theorem rowsSize_le_holes (h : Keyed find channels) :
    rowsSize find channels ≤ 917 * holes minRelayGpioPin (rowsPieces find channels) := by
  induction channels with
  | nil => exact Nat.zero_le _
  | cons iChannel channels ih =>
      obtain ⟨relayNvsKey, unit, hfind, _, hlen⟩ := h iChannel List.mem_cons_self
      have hrest := ih h.tail
      unfold rowsSize rowsPieces
      rw [hfind, holes_append]
      cases unit with
      | none =>
          show 0 + _ ≤ 917 * (0 + _)
          omega
      | some relay =>
          have := rowSize_le relay hlen
          show rowSize relayNvsKey relay + _ ≤
            917 * (holes minRelayGpioPin (rowPieces relayNvsKey relay) + _)
          rw [holes_minRelayGpioPin]
          omega

/-- The loop leaves the rows of the units found. -/
theorem appendRows_eq {fuel : Nat} (hfuel : 13 ≤ fuel) (h : Keyed find channels) (list : CStr) :
    ∃ strings, appendRows fuel (pageNames.render relayTableEntryHtml) find channels list =
        some (strings, true) ∧
      strings.getLastD list = list ++ pageNames.render (rowsPieces find channels) ∧
      ∀ s ∈ strings, s.length ≤ list.length + rowsSize find channels := by
  induction channels generalizing list with
  | nil => exact ⟨[], rfl, (List.append_nil _).symm, fun s hs => absurd hs List.not_mem_nil⟩
  | cons iChannel channels ih =>
      obtain ⟨relayNvsKey, unit, hfind, hkey, _⟩ := h iChannel List.mem_cons_self
      unfold appendRows rowsPieces rowsSize
      rw [hfind]
      cases unit with
      | none =>
          obtain ⟨strings, hrun, hlast, hlen⟩ := ih h.tail list
          refine ⟨strings, hrun, hlast, fun s hs => ?_⟩
          have := hlen s hs
          show s.length ≤ list.length + (0 + _)
          omega
      | some relay =>
          obtain ⟨strings, hrun, hlast, hlen⟩ :=
            ih h.tail (list ++ pageNames.render (rowPieces relayNvsKey relay))
          rw [List.length_append, length_rowPieces] at hlen
          refine ⟨(list ++ pageNames.render (rowPieces relayNvsKey relay)) :: strings, ?_, ?_, ?_⟩
          · dsimp only
            rw [replaceAllIn_rowVars hkey relay hfuel]
            dsimp only
            rw [hrun]
            rfl
          · rw [List.getLastD_cons, hlast, render_append, List.append_assoc]
          · show ∀ s : CStr, _ → s.length ≤ list.length + (rowSize relayNvsKey relay + _)
            rw [List.forall_mem_cons, List.length_append, length_rowPieces]
            refine ⟨by omega, fun s hs => ?_⟩
            have := hlen s hs
            omega

/-- More turns change nothing. -/
theorem appendRows_mono {fuel fuel' : Nat} (hle : fuel ≤ fuel') {tpl list : CStr}
    {result : List CStr × Bool} (h : appendRows fuel tpl find channels list = some result) :
    appendRows fuel' tpl find channels list = some result := by
  induction channels generalizing list result with
  | nil => exact h
  | cons iChannel channels ih =>
      unfold appendRows at h ⊢
      split at h
      · exact h
      · exact ih h
      · split at h
        · cases h
        · next hrow =>
            rw [replaceAllIn_mono hle hrow]
            obtain ⟨rest, hrest, hresult⟩ := Option.map_eq_some_iff.mp h
            dsimp only
            rw [ih hrest, Option.map_some, hresult]

end rows

theorem keyed_findActuator (b : Board) {n : Nat} (hn : n ≤ 15) :
    Keyed (findActuator b) (List.range n) := by
  intro i hi
  have hlt := List.mem_range.mp hi
  unfold findActuator
  rw [getRelayNvsKey_natCast, if_pos (by omega)]
  have hlen := (length_decimal_le_iff (n := i) (k := 2) (by decide)).mpr (by omega)
  refine ⟨chKey i, _, rfl, ?_, ?_⟩
  · unfold chKey
    rw [List.mem_append, not_or]
    exact ⟨by decide +kernel, brace_not_mem_decimal i⟩
  · unfold chKey
    rw [List.length_append]
    have : sKeyChPrefix.length = 9 := rfl
    omega

theorem keyed_findSensor (b : Board) {n : Nat} (hn : n ≤ 8) :
    Keyed (findSensor b) (List.range n) := by
  intro i hi
  have hlt := List.mem_range.mp hi
  unfold findSensor
  rw [getContactSensorNvsKey_natCast, if_pos (by omega)]
  have hlen := (length_decimal_le_iff (n := i) (k := 2) (by decide)).mpr (by omega)
  refine ⟨snKey i, _, rfl, ?_, ?_⟩
  · unfold snKey
    rw [List.mem_append, not_or]
    exact ⟨by decide +kernel, brace_not_mem_decimal i⟩
  · unfold snKey
    rw [List.length_append]
    have : sKeySnPrefix.length = 9 := rfl
    omega

end Web
