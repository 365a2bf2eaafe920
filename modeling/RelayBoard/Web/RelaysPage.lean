import Mathlib.Tactic.IntervalCases
import RelayBoard.Web.IdentityChecks
import RelayBoard.Web.OtaPage
import RelayBoard.Web.RelayRows

/-! # The Relays Page

  `relays_get_handler` of `main/web.c`: every string that it builds in its two buffers on
  the way from `relays.html` to the page, and when all of them fit.
-/

open CString Relay Settings Template

namespace Web

/-! ### Placeholders of the Page -/

def relaysTableHeader : PageHole := holeOf "\x7bRELAYS_TABLE_HEADER\x7d".toList
def relaysTableBody : PageHole := holeOf "\x7bRELAYS_TABLE_BODY\x7d".toList
def contactSensorsTableHeader : PageHole := holeOf "\x7bCONTACT_SENSORS_TABLE_HEADER\x7d".toList
def contactSensorsTableBody : PageHole := holeOf "\x7bCONTACT_SENSORS_TABLE_BODY\x7d".toList
def valDeviceId : PageHole := holeOf "\x7bVAL_DEVICE_ID\x7d".toList
def valDeviceSerial : PageHole := holeOf "\x7bVAL_DEVICE_SERIAL\x7d".toList
def valGpioSafePins : PageHole := holeOf "\x7bVAL_GPIO_SAFE_PINS\x7d".toList
def valSwVersion : PageHole := holeOf "\x7bVAL_SW_VERSION\x7d".toList

/-- The placeholders between `fread` and `assign_static_page_variables`. -/
def pageHoles : List PageHole :=
  [relaysTableHeader, relaysTableBody, contactSensorsTableHeader, contactSensorsTableBody,
    valDeviceId, valDeviceSerial, valGpioSafePins]

theorem pageHoles_nodup : pageHoles.Nodup ∧ minRelayGpioPin ∉ pageHoles := by
  unfold pageHoles minRelayGpioPin relaysTableHeader relaysTableBody contactSensorsTableHeader
    contactSensorsTableBody valDeviceId valDeviceSerial valGpioSafePins
  repeat rewrite [String.toList_ofList]
  decide +kernel

theorem holes_entry : ∀ h ∈ valSwVersion :: pageHoles, holes h relayTableEntryHtml = 0 := by
  unfold pageHoles relayTableEntryHtml valSwVersion relaysTableHeader relaysTableBody
    contactSensorsTableHeader contactSensorsTableBody valDeviceId valDeviceSerial valGpioSafePins
    relayKey relayChannel relayGpioPin relayInverted relayEnabled minRelayGpioPin maxRelayGpioPin
  repeat rewrite [String.toList_ofList]
  decide +kernel

theorem placeholder_pageHoles :
    pageNames.placeholder relaysTableHeader = "\x7bRELAYS_TABLE_HEADER\x7d".toList ∧
      pageNames.placeholder relaysTableBody = "\x7bRELAYS_TABLE_BODY\x7d".toList ∧
      pageNames.placeholder contactSensorsTableHeader =
        "\x7bCONTACT_SENSORS_TABLE_HEADER\x7d".toList ∧
      pageNames.placeholder contactSensorsTableBody =
        "\x7bCONTACT_SENSORS_TABLE_BODY\x7d".toList ∧
      pageNames.placeholder valDeviceId = "\x7bVAL_DEVICE_ID\x7d".toList ∧
      pageNames.placeholder valDeviceSerial = "\x7bVAL_DEVICE_SERIAL\x7d".toList ∧
      pageNames.placeholder valGpioSafePins = "\x7bVAL_GPIO_SAFE_PINS\x7d".toList := by
  unfold relaysTableHeader relaysTableBody contactSensorsTableHeader contactSensorsTableBody
    valDeviceId valDeviceSerial valGpioSafePins
  repeat rewrite [String.toList_ofList]
  decide +kernel

/-! ### The Handler -/

/-- `MAX_TEMPLATE_SIZE`. -/
def maxTemplateSize : Nat := 17408

/-- `MAX_TBL_ENTRY_SIZE`. -/
def maxTblEntrySize : Nat := 1024

/-- `populate_safe_gpio_pins` on a buffer of `bufferSize` bytes. -/
def populateSafeGpioPins (bufferSize : Nat) : List Int → CStr → CStr
  | [], buffer => buffer
  | [pin], buffer => buffer ++ snprintf (bufferSize - buffer.length) (decimal pin)
  | pin :: pins, buffer =>
      populateSafeGpioPins bufferSize pins
        (buffer ++ snprintf (bufferSize - buffer.length) (decimal pin ++ ", ".toList))

/-- The two allocations of the handler, and the files it opens; `none` is `NULL`. -/
structure RelaysEnv where
  mem : Bool
  relayTableMem : Bool
  relaysHtml : Option CStr
  relayTableHeader : Option CStr
  relayTableEntry : Option CStr

/-- What the handler builds in `html_output` and in `relays_list_html`, string after
    string, and its response. -/
structure RelaysRun where
  htmlOutput : List CStr
  relaysListHtml : List CStr
  sent : Option Sent

/-- The response to a failed allocation. -/
def outOfMemory : Sent :=
  .resp "500 Internal Server Error".toList "text/html".toList
    "ESP Device ran out of free memory".toList

/-- The placeholders of the table of actuators. -/
def relaysTableVars (header body : CStr) : List (CStr × CStr) :=
  [("\x7bRELAYS_TABLE_HEADER\x7d".toList, header), ("\x7bRELAYS_TABLE_BODY\x7d".toList, body)]

/-- The placeholders after the table of actuators. -/
def contactSensorsVars (header body deviceId deviceSerial safePins : CStr) :
    List (CStr × CStr) :=
  [("\x7bCONTACT_SENSORS_TABLE_HEADER\x7d".toList, header),
    ("\x7bCONTACT_SENSORS_TABLE_BODY\x7d".toList, body),
    ("\x7bVAL_DEVICE_ID\x7d".toList, deviceId),
    ("\x7bVAL_DEVICE_SERIAL\x7d".toList, deviceSerial),
    ("\x7bVAL_GPIO_SAFE_PINS\x7d".toList, safePins)]

/-- `relays_get_handler` once its files and settings are read; `none` is a loop that takes
    more turns. -/
def relaysPage (fuel : Nat) (build : BuildNum) (b : Board) (deviceId deviceSerial : CStr)
    (relayChCount relaySnCount : Nat) (html header entryTpl : CStr) : Option RelaysRun :=
  match appendRows fuel entryTpl (findActuator b) (List.range relayChCount) [] with
  | none => none
  | some (rows, false) => some ⟨[[], html], [] :: rows, none⟩
  | some (rows, true) =>
      let tableVars := relaysTableVars header (rows.getLastD [])
      match replaceAllIn fuel tableVars html with
      | none => none
      | some html₁ =>
          let htmlOutput := [] :: html :: turnsIn fuel tableVars html
          match appendRows fuel entryTpl (findSensor b) (List.range relaySnCount) [] with
          | none => none
          | some (sensorRows, false) => some ⟨htmlOutput, [] :: rows ++ [] :: sensorRows, none⟩
          | some (sensorRows, true) =>
              -- `assign_static_page_variables` is called behind the last of the five
              let vars := contactSensorsVars header (sensorRows.getLastD []) deviceId deviceSerial
                (populateSafeGpioPins 128 safeGpioPins []) ++ staticPageVariables build
              match replaceAllIn fuel vars html₁ with
              | none => none
              | some page =>
                  some ⟨htmlOutput ++ turnsIn fuel vars html₁, [] :: rows ++ [] :: sensorRows,
                    some (.resp status200 "text/html".toList page)⟩

/-- `relays_get_handler`; `none` is also the abort in `ESP_ERROR_CHECK`. -/
def relaysGetHandler (fuel : Nat) (env : RelaysEnv) (build : BuildNum) (b : Board) :
    Option RelaysRun :=
  if env.mem = false then some ⟨[], [], some outOfMemory⟩
  else if env.relayTableMem = false then some ⟨[[]], [[]], some outOfMemory⟩
  else
    match env.relaysHtml, env.relayTableHeader, env.relayTableEntry with
    | none, _, _ => some ⟨[[]], [[]], some (.err .notFound none)⟩
    | some html, some header, some entryTpl =>
        match Nvs.readString b.nvs sNamespace sKeyDeviceId,
          Nvs.readString b.nvs sNamespace sKeyDeviceSerial,
          Nvs.readUint16 b.nvs sNamespace sKeyChannelCount,
          Nvs.readUint16 b.nvs sNamespace sKeyContactSensorsCount with
        | .ok deviceId, .ok deviceSerial, .ok relayChCount, .ok relaySnCount =>
            relaysPage fuel build b deviceId deviceSerial relayChCount relaySnCount
              (html.take maxTemplateSize) (header.take maxTblEntrySize)
              (entryTpl.take maxTblEntrySize)
        | _, _, _, _ => none
    | some html, _, _ => some ⟨[[], html.take maxTemplateSize], [[]], some (.err .notFound none)⟩

/-- Every string is shorter than its buffer. -/
def RelaysRun.Fits (run : RelaysRun) : Prop :=
  (∀ s ∈ run.htmlOutput, s.length ≤ maxTemplateSize) ∧
    ∀ s ∈ run.relaysListHtml, s.length ≤ maxTemplateSize

/-- More turns than the loops need change nothing. -/
theorem relaysPage_mono {fuel fuel' : Nat} (hle : fuel ≤ fuel') {build : BuildNum} {b : Board}
    {deviceId deviceSerial html header entryTpl : CStr} {relayChCount relaySnCount : Nat}
    {run : RelaysRun}
    (h : relaysPage fuel build b deviceId deviceSerial relayChCount relaySnCount html header
      entryTpl = some run) :
    relaysPage fuel' build b deviceId deviceSerial relayChCount relaySnCount html header
      entryTpl = some run := by
  unfold relaysPage at h ⊢
  split at h
  · cases h
  · next hrows =>
      rw [appendRows_mono hle hrows]
      exact h
  · next rows hrows =>
      rw [appendRows_mono hle hrows]
      dsimp only at h ⊢
      split at h
      · cases h
      · next html₁ htable =>
          rw [replaceAllIn_mono hle htable, turnsIn_mono hle htable]
          dsimp only
          split at h
          · cases h
          · next hsensors =>
              rw [appendRows_mono hle hsensors]
              exact h
          · next sensorRows hsensors =>
              rw [appendRows_mono hle hsensors]
              dsimp only
              split at h
              · cases h
              · next page hpage =>
                  rw [replaceAllIn_mono hle hpage, turnsIn_mono hle hpage]
                  exact h

/-! ### The Shipped Page -/

/-- `relay_table_header.html`. -/
def relayTableHeaderHtml : CStr :=
  "    <tr>\n        <th scope=\"col\">Key</th>\n".toList ++
    "        <th scope=\"col\">Channel</th>\n        <th scope=\"col\">GPIO Pin</th>\n".toList ++
    "        <th scope=\"col\">Inverted</th>\n        <th scope=\"col\">Enabled</th>\n".toList ++
    "        <th scope=\"col\">Actions</th>\n    </tr>".toList

/-- The texts of `relays.html` around its placeholders: 4615 characters, and no brace in
    front of a name. -/
structure RelaysHtml where
  text : Fin 10 → CStr
  opens : ∀ i, opensNothing (text i) = true
  length : (text 0).length + (text 1).length + (text 2).length + (text 3).length +
    (text 4).length + (text 5).length + (text 6).length + (text 7).length + (text 8).length +
    (text 9).length = 4615

/-- `relays.html`. -/
def RelaysHtml.pieces (t : RelaysHtml) : List (Piece PageHole) :=
  [.text (t.text 0), .hole valDeviceId, .text (t.text 1), .hole valGpioSafePins,
    .text (t.text 2), .hole relaysTableHeader, .text (t.text 3), .hole relaysTableBody,
    .text (t.text 4), .hole contactSensorsTableHeader, .text (t.text 5),
    .hole contactSensorsTableBody, .text (t.text 6), .hole valSwVersion, .text (t.text 7),
    .hole valDeviceId, .text (t.text 8), .hole valDeviceSerial, .text (t.text 9)]

/-- The shipped files, and memory for the page. -/
def RelaysHtml.env (t : RelaysHtml) : RelaysEnv where
  mem := true
  relayTableMem := true
  relaysHtml := some (pageNames.render t.pieces)
  relayTableHeader := some relayTableHeaderHtml
  relayTableEntry := some (pageNames.render relayTableEntryHtml)

/-! ### Filling the Page -/

/-- The tables in the page. -/
def tableFillings (rows : List (Piece PageHole)) : List (PageHole × List (Piece PageHole)) :=
  [(relaysTableHeader, [.text relayTableHeaderHtml]), (relaysTableBody, rows)]

def contactSensorsFillings (sensorRows : List (Piece PageHole)) (c : Credentials)
    (safePins : CStr) : List (PageHole × List (Piece PageHole)) :=
  [(contactSensorsTableHeader, [.text relayTableHeaderHtml]),
    (contactSensorsTableBody, sensorRows), (valDeviceId, [.text c.deviceId]),
    (valDeviceSerial, [.text c.deviceSerial]), (valGpioSafePins, [.text safePins])]

theorem templateVars_tableFillings (rows : List (Piece PageHole)) :
    templateVars pageNames (tableFillings rows) =
      relaysTableVars relayTableHeaderHtml (pageNames.render rows) := by
  unfold templateVars tableFillings relaysTableVars
  simp only [List.map_cons, List.map_nil, render_text, render_nil, List.append_nil]
  obtain ⟨hheader, hbody, _⟩ := placeholder_pageHoles
  rw [hheader, hbody]

theorem templateVars_contactSensorsFillings (sensorRows : List (Piece PageHole))
    (c : Credentials) (safePins : CStr) :
    templateVars pageNames (contactSensorsFillings sensorRows c safePins) =
      contactSensorsVars relayTableHeaderHtml (pageNames.render sensorRows) c.deviceId
        c.deviceSerial safePins := by
  unfold templateVars contactSensorsFillings contactSensorsVars
  simp only [List.map_cons, List.map_nil, render_text, render_nil, List.append_nil]
  obtain ⟨_, _, hheader, hbody, hid, hserial, hpins⟩ := placeholder_pageHoles
  rw [hheader, hbody, hid, hserial, hpins]

theorem holes_pieces (t : RelaysHtml) :
    holes relaysTableHeader t.pieces = 1 ∧ holes relaysTableBody t.pieces = 1 ∧
      holes contactSensorsTableHeader t.pieces = 1 ∧
      holes contactSensorsTableBody t.pieces = 1 ∧ holes valDeviceId t.pieces = 2 ∧
      holes valDeviceSerial t.pieces = 1 ∧ holes valGpioSafePins t.pieces = 1 ∧
      holes valSwVersion t.pieces = 1 ∧ holes minRelayGpioPin t.pieces = 0 := by
  simp only [RelaysHtml.pieces, holes]
  unfold relaysTableHeader relaysTableBody contactSensorsTableHeader contactSensorsTableBody
    valDeviceId valDeviceSerial valGpioSafePins valSwVersion minRelayGpioPin
  repeat rewrite [String.toList_ofList]
  decide +kernel

theorem tidy_pieces (t : RelaysHtml) : Tidy t.pieces := by
  simp only [RelaysHtml.pieces, tidy_text_cons, tidy_hole_cons, t.opens, true_and]
  exact tidy_nil

theorem length_pageHoles : (pageNames.placeholder relaysTableHeader).length = 21 ∧
    (pageNames.placeholder relaysTableBody).length = 19 ∧
    (pageNames.placeholder contactSensorsTableHeader).length = 30 ∧
    (pageNames.placeholder contactSensorsTableBody).length = 28 ∧
    (pageNames.placeholder valDeviceId).length = 15 ∧
    (pageNames.placeholder valDeviceSerial).length = 19 ∧
    (pageNames.placeholder valGpioSafePins).length = 20 ∧
    (pageNames.placeholder valSwVersion).length = 16 ∧
    (pageNames.placeholder minRelayGpioPin).length = 20 := by
  unfold relaysTableHeader relaysTableBody contactSensorsTableHeader contactSensorsTableBody
    valDeviceId valDeviceSerial valGpioSafePins valSwVersion minRelayGpioPin
  repeat rewrite [String.toList_ofList]
  decide +kernel

theorem length_pieces (t : RelaysHtml) : (pageNames.render t.pieces).length = 4798 := by
  have htexts := t.length
  unfold RelaysHtml.pieces
  simp only [render_text, render_hole, render_nil, List.length_append, length_pageHoles, List.length_nil]
  grind

theorem relayTableHeaderHtml_spec :
    relayTableHeaderHtml.length = 238 ∧ '\x7b' ∉ relayTableHeaderHtml := by
  unfold relayTableHeaderHtml
  repeat rewrite [String.toList_ofList]
  decide +kernel

/-- A list of rows: its holes are those of the template of a row. -/
structure RowList (rows : List (Piece PageHole)) : Prop where
  tidy : Tidy rows
  holes : ∀ h, Template.holes h relayTableEntryHtml = 0 → Template.holes h rows = 0

/-- All fillings before `assign_static_page_variables`. -/
def pageFillings (rows sensorRows : List (Piece PageHole)) (c : Credentials) (safePins : CStr) :
    List (PageHole × List (Piece PageHole)) :=
  tableFillings rows ++ contactSensorsFillings sensorRows c safePins

section page
variable {rows sensorRows : List (Piece PageHole)} {c : Credentials} {safePins : CStr}

theorem pageFillings_holes :
    (pageFillings rows sensorRows c safePins).map Prod.fst = pageHoles := rfl

theorem pairwise_pageFillings :
    (pageFillings rows sensorRows c safePins).Pairwise fun f g => f.1 ≠ g.1 := by
  have hnodup := pageHoles_nodup.1
  rw [← pageFillings_holes] at hnodup
  exact List.pairwise_map.mp hnodup

/-- The page's own names are in no filling. -/
theorem closed_pageFillings (hrows : RowList rows) (hsensors : RowList sensorRows) :
    Closed (pageFillings rows sensorRows c safePins)
      (pageFillings rows sensorRows c safePins) := by
  intro f hf g hg
  have hg : g.1 ∈ (pageFillings rows sensorRows c safePins).map Prod.fst :=
    List.mem_map_of_mem hg
  rw [pageFillings_holes] at hg
  have hnone := holes_entry g.1 (List.mem_cons_of_mem _ hg)
  simp only [pageFillings, tableFillings, contactSensorsFillings, List.cons_append,
    List.nil_append, List.mem_cons, List.not_mem_nil, or_false] at hf
  rcases hf with rfl | rfl | rfl | rfl | rfl | rfl | rfl
  · rfl
  · exact hrows.holes _ hnone
  · rfl
  · exact hsensors.holes _ hnone
  · rfl
  · rfl
  · rfl

/-- The length of the page after each of the fillings. -/
theorem length_take_pageFillings (t : RelaysHtml) (hrows : RowList rows)
    (hsensors : RowList sensorRows) (c : Credentials) (safePins : CStr) (k : Nat) :
    (pageNames.render (fillAll ((pageFillings rows sensorRows c safePins).take k)
        t.pieces)).length + ([21, 19, 30, 28, 30, 19, 20].take k).sum =
      4798 + ([238, (pageNames.render rows).length, 238, (pageNames.render sensorRows).length,
        2 * c.deviceId.length, c.deviceSerial.length, safePins.length].take k).sum := by
  have hclosed : Closed (pageFillings rows sensorRows c safePins)
      (pageFillings rows sensorRows c safePins) := closed_pageFillings hrows hsensors
  have hsub := List.take_sublist k (pageFillings rows sensorRows c safePins)
  have hlen := (addsUp_length pageNames).fillAll t.pieces (pairwise_pageFillings.sublist hsub)
    fun f hf g hg => hclosed f (hsub.subset hf) g (hsub.subset hg)
  -- what goes out with each name, and what comes in
  have hout : ((pageFillings rows sensorRows c safePins).map fun f =>
      holes f.1 t.pieces * (pageNames.render [.hole f.1]).length) =
        [21, 19, 30, 28, 30, 19, 20] := by
    simp only [pageFillings, tableFillings, contactSensorsFillings, List.cons_append,
      List.nil_append, List.map_cons, List.map_nil, holes_pieces, render_hole, render_nil,
      List.append_nil, length_pageHoles]
  have hin : ((pageFillings rows sensorRows c safePins).map fun f =>
      holes f.1 t.pieces * (pageNames.render f.2).length) =
        [238, (pageNames.render rows).length, 238, (pageNames.render sensorRows).length,
          2 * c.deviceId.length, c.deviceSerial.length, safePins.length] := by
    simp only [pageFillings, tableFillings, contactSensorsFillings, List.cons_append,
      List.nil_append, List.map_cons, List.map_nil, holes_pieces, render_text, render_nil,
      List.append_nil, relayTableHeaderHtml_spec.1, Nat.one_mul]
  rw [List.map_take, List.map_take, hout, hin, length_pieces] at hlen
  exact hlen

/-- The page with its tables, credentials and pins. -/
theorem length_filledPage (t : RelaysHtml) (hrows : RowList rows) (hsensors : RowList sensorRows)
    (hpins : safePins.length = 98) :
    (pageNames.render (fillAll (pageFillings rows sensorRows c safePins) t.pieces)).length =
      5205 + 2 * c.deviceId.length + c.deviceSerial.length + (pageNames.render rows).length +
        (pageNames.render sensorRows).length := by
  have hlen := length_take_pageFillings t hrows hsensors c safePins 7
  rw [List.take_of_length_le (Nat.le_refl 7), hpins] at hlen
  simp only [List.take_succ_cons, List.take_zero, List.sum_cons, List.sum_nil] at hlen
  omega

/-- No page on the way is longer. -/
theorem length_stages_pageFillings (t : RelaysHtml) (hrows : RowList rows)
    (hsensors : RowList sensorRows) (hpins : safePins.length = 98) :
    ∀ qs ∈ stages (pageFillings rows sensorRows c safePins) t.pieces,
      (pageNames.render qs).length ≤ 5205 + 2 * c.deviceId.length + c.deviceSerial.length +
        (pageNames.render rows).length + (pageNames.render sensorRows).length := by
  intro qs hqs
  obtain ⟨k, hk, rfl⟩ := mem_stages hqs
  have hlen := length_take_pageFillings t hrows hsensors c safePins k
  rw [hpins] at hlen
  have hk : k ≤ 7 := hk
  interval_cases k
  all_goals
    simp only [List.take_succ_cons, List.take_zero, List.sum_cons, List.sum_nil] at hlen ⊢
    omega

end page

/-! ### Static Placeholders -/

/-- The smallest pin, the version, and the others. -/
theorem staticPageVariables_split (build : BuildNum) : staticPageVariables build =
    ((staticPageVariables build).take 17).take 14 ++
      ("\x7bMIN_RELAY_GPIO_PIN\x7d".toList, fLen relayGpioPinMin) ::
        ((staticPageVariables build).take 17).drop 15 ++
          ("\x7bVAL_SW_VERSION\x7d".toList, deviceSwVersion build) ::
            (staticPageVariables build).drop 18 := rfl

theorem isPlaceholder_staticPageVariables (build : BuildNum) :
    ∀ v ∈ staticPageVariables build, isPlaceholder v.1 = true := by
  have hall : ∀ p ∈ (staticPageVariables build).map Prod.fst, isPlaceholder p = true := by
    unfold staticPageVariables
    rw [List.map_cons]
    simp only [List.map_cons, List.map_nil]
    repeat rewrite [String.toList_ofList]
    decide +kernel
  exact fun v hv => hall v.1 (List.mem_map_of_mem hv)

/-- Only the version is longer than its placeholder. -/
theorem staticPageVariables_short {build : BuildNum} (hbuild : build.text.length = 14) :
    ∀ v ∈ (staticPageVariables build).take 17 ++ (staticPageVariables build).drop 18,
      v.2.length ≤ v.1.length := by
  unfold staticPageVariables
  simp only [List.take_succ_cons, List.take_zero, List.drop_succ_cons, List.drop_zero,
    List.cons_append, List.nil_append, List.forall_mem_cons, hbuild]
  unfold deviceSwVersionNum
  repeat rewrite [String.toList_ofList]
  and_intros
  all_goals decide

theorem minRelayGpioPin_ne (build : BuildNum) :
    ∀ v ∈ ((staticPageVariables build).take 17).take 14, minRelayGpioPin ≠ holeOf v.1 := by
  unfold staticPageVariables minRelayGpioPin
  simp only [List.take_succ_cons, List.take_zero, List.forall_mem_cons]
  repeat rewrite [String.toList_ofList]
  decide +kernel

/-- `assign_static_page_variables` adds ten characters at one place, where no row has
    given up more before. -/
theorem length_stages_static {build : BuildNum} (hbuild : build.text.length = 14)
    {ps : List (Piece PageHole)} (hversion : holes valSwVersion ps ≤ 1) {size : Nat}
    (hps : (pageNames.render ps).length ≤ size)
    (hrows : (pageNames.render ps).length + 10 ≤ size + 19 * holes minRelayGpioPin ps) :
    ∀ qs ∈ stages (textFillings (staticPageVariables build)) ps,
      (pageNames.render qs).length ≤ size := by
  have hshort : ∀ vars ⊆ (staticPageVariables build).take 17 ++
      (staticPageVariables build).drop 18, Short pageNames (textFillings vars) := by
    intro vars hsub
    apply short_textFillings
    intro v hv
    refine ⟨?_, staticPageVariables_short hbuild v (hsub hv)⟩
    apply isPlaceholder_staticPageVariables build
    rcases List.mem_append.mp (hsub hv) with hmem | hmem
    · exact List.mem_of_mem_take hmem
    · exact List.mem_of_mem_drop hmem
  have hbefore := hshort (((staticPageVariables build).take 17).take 14) fun v hv =>
    List.mem_append_left _ (List.mem_of_mem_take hv)
  have hbetween := hshort (((staticPageVariables build).take 17).drop 15) fun v hv =>
    List.mem_append_left _ (List.mem_of_mem_drop hv)
  have hafter := hshort ((staticPageVariables build).drop 18) fun v hv =>
    List.mem_append_right _ hv
  have hsplit : textFillings (staticPageVariables build) =
      textFillings (((staticPageVariables build).take 17).take 14) ++
        (minRelayGpioPin, [.text (fLen relayGpioPinMin)]) ::
          textFillings (((staticPageVariables build).take 17).drop 15) ++
            (valSwVersion, [.text (deviceSwVersion build)]) ::
              textFillings ((staticPageVariables build).drop 18) := by
    conv_lhs => rw [staticPageVariables_split]
    unfold textFillings
    rw [List.map_append, List.map_append, List.map_cons, List.map_cons]
    rfl
  have hversionLen : (deviceSwVersion build).length = 26 := by
    unfold deviceSwVersion deviceSwVersionNum
    rw [List.length_append, hbuild]
    repeat rewrite [String.toList_ofList]
    rfl
  obtain ⟨_, _, _, _, _, _, _, hversionName, hpinName⟩ := length_pageHoles
  have hpin : (pageNames.render [.text (fLen relayGpioPinMin)]).length = 1 := by decide
  -- no text brings holes, and none before the smallest pin fills its holes
  have hfree : ∀ h vars, ∀ f ∈ textFillings vars, holes h f.2 = 0 := by
    intro h vars f hf
    obtain ⟨v, _, rfl⟩ := List.mem_map.mp hf
    rfl
  rw [hsplit]
  apply length_stages_of_room hbefore _ hbetween hafter hps
  · apply holes_fillAll
    · intro f hf
      obtain ⟨v, hv, rfl⟩ := List.mem_map.mp hf
      exact minRelayGpioPin_ne build v hv
    · exact hfree _ _
  · apply holes_fillAll_le
    rw [List.forall_mem_append, List.forall_mem_cons]
    exact ⟨hfree _ _, rfl, hfree _ _⟩
  · dsimp only
    rw [hpinName, hversionName, hpin, render_text, render_nil, List.append_nil, hversionLen]
    omega
  · rw [hpinName, hpin]
    omega

/-! ### When the Page Fits -/

theorem rowList_rowsPieces {find : Nat → Option (CStr × Option RelayUnit)}
    {channels : List Nat} (h : Keyed find channels) : RowList (rowsPieces find channels) :=
  ⟨tidy_rowsPieces h, fun _ hnone => holes_rowsPieces hnone⟩

section fits
variable {rows sensorRows : List (Piece PageHole)} {c : Credentials} {safePins : CStr}
  (hrows : RowList rows) (hsensors : RowList sensorRows) (hid : '\x7b' ∉ c.deviceId)
  (hserial : '\x7b' ∉ c.deviceSerial) (hpins : '\x7b' ∉ safePins)
include hrows hsensors hid hserial hpins

theorem fair_pageFillings : Fair (pageFillings rows sensorRows c safePins) := by
  have hheader := relayTableHeaderHtml_spec.2
  have htext : ∀ {s : CStr}, '\x7b' ∉ s → Tidy (H := PageHole) [.text s] := fun hs =>
    tidy_text_cons.mpr ⟨opensNothing_of_not_mem hs, tidy_nil⟩
  intro f hf
  refine ⟨?_, closed_pageFillings hrows hsensors f hf f hf⟩
  simp only [pageFillings, tableFillings, contactSensorsFillings, List.cons_append,
    List.nil_append, List.mem_cons, List.not_mem_nil, or_false] at hf
  rcases hf with rfl | rfl | rfl | rfl | rfl | rfl | rfl
  · exact htext hheader
  · exact hrows.tidy
  · exact htext hheader
  · exact hsensors.tidy
  · exact htext hid
  · exact htext hserial
  · exact htext hpins

end fits

/-- The rows keep their holes for the smallest pin. -/
theorem holes_minRelayGpioPin_filledPage (t : RelaysHtml) {rows sensorRows : List (Piece PageHole)}
    (hrows : RowList rows) (hsensors : RowList sensorRows) (c : Credentials) (safePins : CStr) :
    holes minRelayGpioPin (fillAll (pageFillings rows sensorRows c safePins) t.pieces) =
      holes minRelayGpioPin rows + holes minRelayGpioPin sensorRows := by
  have hclosed : Closed (pageFillings rows sensorRows c safePins)
      (pageFillings rows sensorRows c safePins) := closed_pageFillings hrows hsensors
  have hholes := (addsUp_holes minRelayGpioPin).fillAll t.pieces pairwise_pageFillings hclosed
  -- none of the names is the smallest pin
  have hout : ((pageFillings rows sensorRows c safePins).map fun f =>
      holes f.1 t.pieces * holes minRelayGpioPin [.hole f.1]).sum = 0 := by
    rw [List.sum_eq_zero_iff, List.forall_mem_map]
    intro f hf
    have hname := List.mem_map_of_mem (f := Prod.fst) hf
    rw [pageFillings_holes] at hname
    have hne : f.1 ≠ minRelayGpioPin := fun heq => pageHoles_nodup.2 (heq ▸ hname)
    rw [holes, if_neg hne]
    rfl
  have hin : ((pageFillings rows sensorRows c safePins).map fun f =>
      holes f.1 t.pieces * holes minRelayGpioPin f.2).sum =
        holes minRelayGpioPin rows + holes minRelayGpioPin sensorRows := by
    have htext : ∀ s : CStr, holes minRelayGpioPin [.text s] = 0 := fun _ => rfl
    simp only [pageFillings, tableFillings, contactSensorsFillings, List.cons_append,
      List.nil_append, List.map_cons, List.map_nil, List.sum_cons, List.sum_nil, holes_pieces,
      htext, Nat.mul_zero, Nat.one_mul, Nat.zero_add, Nat.add_zero]
  obtain ⟨_, _, _, _, _, _, _, _, hnone⟩ := holes_pieces t
  rw [hout, hin, hnone] at hholes
  omega

/-- The templates on the way fit where the one before the static placeholders does. -/
theorem stages_fit_iff (t : RelaysHtml) {build : BuildNum} (hbuild : build.text.length = 14)
    {rows sensorRows : List (Piece PageHole)} (hrows : RowList rows)
    (hsensors : RowList sensorRows) {c : Credentials} (hfit : c.Fit) {safePins : CStr}
    (hpins : safePins.length = 98)
    (hmin : (pageNames.render rows).length ≤ 917 * holes minRelayGpioPin rows)
    (hminSensors : (pageNames.render sensorRows).length ≤
      917 * holes minRelayGpioPin sensorRows) :
    (∀ qs ∈ stages (pageFillings rows sensorRows c safePins ++
        textFillings (staticPageVariables build)) t.pieces,
      (pageNames.render qs).length ≤ maxTemplateSize) ↔
      5205 + 2 * c.deviceId.length + c.deviceSerial.length + (pageNames.render rows).length +
        (pageNames.render sensorRows).length ≤ maxTemplateSize := by
  have hlen := length_filledPage t hrows hsensors (c := c) hpins
  rw [stages_append, List.forall_mem_append]
  constructor
  · intro h
    rw [← hlen]
    exact h.1 _ (fillAll_mem_stages (List.cons_ne_nil _ _))
  · intro h
    refine ⟨fun qs hqs => (length_stages_pageFillings t hrows hsensors hpins qs hqs).trans h, ?_⟩
    apply length_stages_static hbuild
    · -- the version is in no filling
      have hentry := holes_entry valSwVersion List.mem_cons_self
      obtain ⟨_, _, _, _, _, _, _, hone, _⟩ := holes_pieces t
      rw [← hone]
      apply holes_fillAll_le
      intro f hf
      simp only [pageFillings, tableFillings, contactSensorsFillings, List.cons_append,
        List.nil_append, List.mem_cons, List.not_mem_nil, or_false] at hf
      rcases hf with rfl | rfl | rfl | rfl | rfl | rfl | rfl
      · rfl
      · exact hrows.holes _ hentry
      · rfl
      · exact hsensors.holes _ hentry
      · rfl
      · rfl
      · rfl
    · exact hlen.trans_le h
    · rw [holes_minRelayGpioPin_filledPage t hrows hsensors, hlen]
      unfold Credentials.Fit deviceIdLength deviceSerialLength at hfit
      unfold maxTemplateSize at h ⊢
      omega

theorem safePins_spec : (populateSafeGpioPins 128 safeGpioPins []).length = 98 ∧
    '\x7b' ∉ populateSafeGpioPins 128 safeGpioPins [] := by
  decide +kernel

/-- What the handler needs to know of its settings. -/
structure RelaysSettings (b : Board) (c : Credentials) (chCount snCount : Nat) : Prop where
  stored : c.StoredIn b.nvs
  channelCount : b.nvs sNamespace sKeyChannelCount = some (.u16 chCount)
  contactSensorsCount : b.nvs sNamespace sKeyContactSensorsCount = some (.u16 snCount)

theorem relaysGetHandler_env (t : RelaysHtml) (fuel : Nat) (build : BuildNum) {b : Board}
    {c : Credentials} {chCount snCount : Nat} (h : RelaysSettings b c chCount snCount) :
    relaysGetHandler fuel t.env build b =
      relaysPage fuel build b c.deviceId c.deviceSerial chCount snCount
        (pageNames.render t.pieces) relayTableHeaderHtml
        (pageNames.render relayTableEntryHtml) := by
  have hpage : (pageNames.render t.pieces).take maxTemplateSize = pageNames.render t.pieces :=
    List.take_of_length_le (by rw [length_pieces]; decide)
  have hheader : relayTableHeaderHtml.take maxTblEntrySize = relayTableHeaderHtml :=
    List.take_of_length_le (by rw [relayTableHeaderHtml_spec.1]; decide)
  have hentry : (pageNames.render relayTableEntryHtml).take maxTblEntrySize =
      pageNames.render relayTableEntryHtml :=
    List.take_of_length_le (by rw [relayTableEntryHtml_spec.1]; decide)
  unfold relaysGetHandler RelaysHtml.env
  dsimp only
  rw [if_neg (by decide), if_neg (by decide)]
  rw [h.stored.readId, h.stored.readSerial, Nvs.readUint16_eq_ok_iff.mpr h.channelCount,
    Nvs.readUint16_eq_ok_iff.mpr h.contactSensorsCount]
  dsimp only
  rw [hpage, hheader, hentry]

/-- The size of the page before `assign_static_page_variables`. -/
def relaysPageSize (b : Board) (c : Credentials) (chCount snCount : Nat) : Nat :=
  5205 + 2 * c.deviceId.length + c.deviceSerial.length +
    rowsSize (findActuator b) (List.range chCount) +
    rowsSize (findSensor b) (List.range snCount)

section run
variable {rows sensorRows : List (Piece PageHole)} {c : Credentials} {safePins : CStr}
  (build : BuildNum) (t : RelaysHtml) (hrows : RowList rows) (hsensors : RowList sensorRows)
  (hid : '\x7b' ∉ c.deviceId) (hserial : '\x7b' ∉ c.deviceSerial) (hpins : '\x7b' ∉ safePins)
include hrows hsensors hid hserial hpins

/-- With turns enough all loops over the page come to their end, and what they build fits
    where the templates on the way do. -/
theorem exists_pageTurns : ∃ turns, ∀ fuel, turns ≤ fuel → ∃ html₁ page,
    replaceAllIn fuel (relaysTableVars relayTableHeaderHtml (pageNames.render rows))
        (pageNames.render t.pieces) = some html₁ ∧
      replaceAllIn fuel (contactSensorsVars relayTableHeaderHtml (pageNames.render sensorRows)
        c.deviceId c.deviceSerial safePins ++ staticPageVariables build) html₁ = some page ∧
      ((∀ s ∈ turnsIn fuel (relaysTableVars relayTableHeaderHtml (pageNames.render rows))
            (pageNames.render t.pieces) ++
          turnsIn fuel (contactSensorsVars relayTableHeaderHtml (pageNames.render sensorRows)
            c.deviceId c.deviceSerial safePins ++ staticPageVariables build) html₁,
          s.length ≤ maxTemplateSize) ↔
        ∀ qs ∈ stages (pageFillings rows sensorRows c safePins ++
            textFillings (staticPageVariables build)) t.pieces,
          (pageNames.render qs).length ≤ maxTemplateSize) := by
  have hfair : Fair (pageFillings rows sensorRows c safePins ++
      textFillings (staticPageVariables build)) := by
    rw [Fair, List.forall_mem_append]
    exact ⟨fair_pageFillings hrows hsensors hid hserial hpins,
      fair_textFillings fun v hv => (staticPageVariables_braces build v hv).2⟩
  have htable : Fair (tableFillings rows) := fun f hf =>
    hfair f (List.mem_append_left _ (List.mem_append_left _ hf))
  refine ⟨max (turnsNeeded (tableFillings rows) t.pieces)
    (turnsNeeded (pageFillings rows sensorRows c safePins ++
      textFillings (staticPageVariables build)) t.pieces), fun fuel hfuel => ?_⟩
  obtain ⟨hfuel₁, hfuel₂⟩ := Nat.max_le.mp hfuel
  -- the first loop fills the table, both together fill the page
  have hfirst := replaceAllIn_render (N := pageNames) (tidy_pieces t) htable hfuel₁
  have hall := replaceAllIn_render (N := pageNames) (tidy_pieces t) hfair hfuel₂
  have hstart : (pageNames.render t.pieces).length ≤ maxTemplateSize := by
    rw [length_pieces]
    decide
  have hturns := turnsIn_le_iff (N := pageNames) (tidy_pieces t) hfair hfuel₂ hstart
  have hstatic := templateVars_textFillings (isPlaceholder_staticPageVariables build)
  unfold pageFillings at hall hturns ⊢
  rw [templateVars_append, templateVars_append, templateVars_tableFillings,
    templateVars_contactSensorsFillings, hstatic, List.append_assoc] at hall hturns
  rw [templateVars_tableFillings] at hfirst
  -- the second loop goes on where the first has come to
  obtain ⟨hreplace, hturnsIn⟩ := replaceAllIn_append hfirst
    (contactSensorsVars relayTableHeaderHtml (pageNames.render sensorRows) c.deviceId
      c.deviceSerial safePins ++ staticPageVariables build)
  rw [hreplace] at hall
  rw [hturnsIn] at hturns
  exact ⟨_, _, hfirst, hall, hturns⟩

end run

/-- With turns enough the handler comes to its end, and its strings fit where the page
    before the static placeholders does. -/
theorem exists_relaysRun (t : RelaysHtml) {build : BuildNum} (hbuild : build.text.length = 14)
    {b : Board} {c : Credentials} {chCount snCount : Nat}
    (h : RelaysSettings b c chCount snCount) (hfit : c.Fit) (hid : '\x7b' ∉ c.deviceId)
    (hserial : '\x7b' ∉ c.deviceSerial) (hch : chCount ≤ 15) (hsn : snCount ≤ 8) :
    ∃ turns, ∀ fuel, turns ≤ fuel → ∃ run, relaysGetHandler fuel t.env build b = some run ∧
      (run.Fits ↔ relaysPageSize b c chCount snCount ≤ maxTemplateSize) := by
  have hkeyed := keyed_findActuator b hch
  have hkeyedSensors := keyed_findSensor b hsn
  have hrows := rowList_rowsPieces hkeyed
  have hsensors := rowList_rowsPieces hkeyedSensors
  have hmin := rowsSize_le_holes hkeyed
  have hminSensors := rowsSize_le_holes hkeyedSensors
  rw [← length_rowsPieces] at hmin hminSensors
  have hpins := safePins_spec
  have hstages := stages_fit_iff t hbuild hrows hsensors hfit hpins.1 hmin hminSensors
  obtain ⟨turns, hturns⟩ := exists_pageTurns build t hrows hsensors hid hserial hpins.2
  refine ⟨max 13 turns, fun fuel hfuel => ?_⟩
  obtain ⟨hfuel₁, hfuel₂⟩ := Nat.max_le.mp hfuel
  obtain ⟨html₁, page, htable, hpage, hfits⟩ := hturns fuel hfuel₂
  obtain ⟨strings, hlist, hlast, hlen⟩ := appendRows_eq hfuel₁ hkeyed []
  obtain ⟨sensorStrings, hlistSensors, hlastSensors, hlenSensors⟩ :=
    appendRows_eq hfuel₁ hkeyedSensors []
  rw [List.nil_append] at hlast hlastSensors
  have hrun : relaysGetHandler fuel t.env build b =
      some ⟨([] :: pageNames.render t.pieces :: turnsIn fuel (relaysTableVars relayTableHeaderHtml
            (pageNames.render (rowsPieces (findActuator b) (List.range chCount))))
            (pageNames.render t.pieces)) ++
          turnsIn fuel (contactSensorsVars relayTableHeaderHtml
            (pageNames.render (rowsPieces (findSensor b) (List.range snCount))) c.deviceId
            c.deviceSerial (populateSafeGpioPins 128 safeGpioPins []) ++
              staticPageVariables build) html₁,
        [] :: strings ++ [] :: sensorStrings,
        some (.resp status200 "text/html".toList page)⟩ := by
    rw [relaysGetHandler_env t fuel build h]
    unfold relaysPage
    rw [hlist]
    dsimp only
    rw [hlast, htable]
    dsimp only
    rw [hlistSensors]
    dsimp only
    rw [hlastSensors, hpage]
  refine ⟨_, hrun, ?_⟩
  -- the rows fit by their number
  have hrowsSize := rowsSize_le hkeyed
  have hsensorsSize := rowsSize_le hkeyedSensors
  rw [List.length_range] at hrowsSize hsensorsSize
  have hlists : ∀ s ∈ [] :: strings ++ [] :: sensorStrings, s.length ≤ maxTemplateSize := by
    have hempty : ([] : CStr).length ≤ maxTemplateSize := Nat.zero_le _
    rw [List.length_nil] at hlen hlenSensors
    rw [List.forall_mem_append, List.forall_mem_cons, List.forall_mem_cons]
    unfold maxTemplateSize at hempty ⊢
    refine ⟨⟨hempty, fun s hs => ?_⟩, hempty, fun s hs => ?_⟩
    · have := hlen s hs
      omega
    · have := hlenSensors s hs
      omega
  have hpages : ∀ s : CStr, s = [] ∨ s = pageNames.render t.pieces →
      s.length ≤ maxTemplateSize := by
    intro s hs
    rcases hs with rfl | rfl
    · exact Nat.zero_le _
    · rw [length_pieces]
      decide
  unfold relaysPageSize RelaysRun.Fits
  rw [← length_rowsPieces, ← length_rowsPieces, ← hstages, ← hfits]
  constructor
  · intro hall s hs
    exact hall.1 s (List.mem_cons_of_mem _ (List.mem_cons_of_mem _ hs))
  · intro hall
    refine ⟨?_, hlists⟩
    rw [List.cons_append, List.cons_append, List.forall_mem_cons, List.forall_mem_cons]
    exact ⟨hpages _ (.inl rfl), hpages _ (.inr rfl), hall⟩

/-- A run whose strings fit has a page of this size. -/
theorem relaysPageSize_le (t : RelaysHtml) {build : BuildNum} (hbuild : build.text.length = 14)
    {b : Board} {c : Credentials} {chCount snCount : Nat}
    (h : RelaysSettings b c chCount snCount) (hfit : c.Fit) (hid : '\x7b' ∉ c.deviceId)
    (hserial : '\x7b' ∉ c.deviceSerial) (hch : chCount ≤ 15) (hsn : snCount ≤ 8) {fuel : Nat}
    {run : RelaysRun} (hrun : relaysGetHandler fuel t.env build b = some run)
    (hfits : run.Fits) : relaysPageSize b c chCount snCount ≤ maxTemplateSize := by
  obtain ⟨turns, hturns⟩ := exists_relaysRun t hbuild h hfit hid hserial hch hsn
  obtain ⟨run', hrun', hiff⟩ := hturns (max fuel turns) (Nat.le_max_right _ _)
  rw [relaysGetHandler_env t _ build h] at hrun hrun'
  rw [relaysPage_mono (Nat.le_max_left fuel turns) hrun] at hrun'
  cases hrun'
  exact hiff.mp hfits

/-- Every string that the handler builds for the shipped page fits exactly if the page
    before the static placeholders does. -/
theorem relaysGetHandler_fits_iff (t : RelaysHtml) {build : BuildNum}
    (hbuild : build.text.length = 14) {b : Board} {c : Credentials} {chCount snCount : Nat}
    (h : RelaysSettings b c chCount snCount) (hfit : c.Fit) (hid : '\x7b' ∉ c.deviceId)
    (hserial : '\x7b' ∉ c.deviceSerial) (hch : chCount ≤ 15) (hsn : snCount ≤ 8) :
    (∃ fuel run, relaysGetHandler fuel t.env build b = some run ∧ run.Fits) ↔
      relaysPageSize b c chCount snCount ≤ maxTemplateSize := by
  constructor
  · intro ⟨fuel, run, hrun, hfits⟩
    exact relaysPageSize_le t hbuild h hfit hid hserial hch hsn hrun hfits
  · intro hsize
    obtain ⟨turns, hturns⟩ := exists_relaysRun t hbuild h hfit hid hserial hch hsn
    obtain ⟨run, hrun, hiff⟩ := hturns turns (Nat.le_refl _)
    exact ⟨turns, run, hrun, hiff.mpr hsize⟩

/-- Blanks in the place of the texts of the page. -/
def blankPage : RelaysHtml where
  text i := List.replicate ([269, 971, 208, 42, 167, 42, 685, 2056, 26, 149].getD i 0) ' '
  opens i := opensNothing_of_not_mem fun hmem =>
    absurd (List.eq_of_mem_replicate hmem) (by decide)
  length := by
    simp only [List.length_replicate]
    rfl

/-- A device with actuators on the first safe pins. -/
def actuatorBoard (n : Nat) : Board :=
  { Board.reset (Nvs.setAll deviceStore sNamespace
        [(sKeyChannelCount, .u16 n), (sKeyContactSensorsCount, .u16 0)]) Gpio.State.initial with
    unitsInMemory := true
    sUnits := (safeGpioPins.take n).zipIdx.map fun unit => getActuatorRelay unit.2 unit.1
    sRelaysCount := n }

theorem relaysSettings_actuatorBoard (n : Nat) :
    RelaysSettings (actuatorBoard n) deviceCredentials n 0 := by
  have hkeys : [sKeyChannelCount, sKeyContactSensorsCount].Nodup ∧
      (∀ key ∈ [sKeyChannelCount, sKeyContactSensorsCount], key ≠ sKeyDeviceId) ∧
      ∀ key ∈ [sKeyChannelCount, sKeyContactSensorsCount], key ≠ sKeyDeviceSerial := by
    decide +kernel
  have hkeep : ∀ {key : CStr},
      (∀ k ∈ [sKeyChannelCount, sKeyContactSensorsCount], k ≠ key) →
        (actuatorBoard n).nvs sNamespace key = deviceStore sNamespace key := fun hne =>
    Nvs.setAll_of_not_mem fun w hw =>
      hne w.1 (List.mem_map_of_mem (f := Prod.fst) hw)
  refine ⟨⟨?_, ?_⟩, ?_, ?_⟩
  · exact (hkeep hkeys.2.1).trans deviceCredentials_stored.1
  · exact (hkeep hkeys.2.2).trans deviceCredentials_stored.2
  · exact Nvs.setAll_of_mem hkeys.1 List.mem_cons_self
  · exact Nvs.setAll_of_mem hkeys.1 (List.mem_cons_of_mem _ List.mem_cons_self)

/-- Two actuators. -/
theorem relaysGetHandler_fits_iff_two :
    (∃ fuel run, relaysGetHandler fuel blankPage.env someBuild (actuatorBoard 2) = some run ∧
      run.Fits) ↔ relaysPageSize (actuatorBoard 2) deviceCredentials 2 0 ≤ maxTemplateSize :=
  relaysGetHandler_fits_iff blankPage (by decide) (relaysSettings_actuatorBoard 2)
    ⟨by decide, by decide⟩ (by decide) (by decide) (by decide) (by decide)

/-- Fifteen actuators need more than the buffer, whatever the texts of the page. -/
theorem not_relaysGetHandler_fits : ¬ ∃ (t : RelaysHtml) (fuel : Nat) (run : RelaysRun),
    relaysGetHandler fuel t.env someBuild (actuatorBoard 15) = some run ∧ run.Fits := by
  intro ⟨t, fuel, run, hrun, hfits⟩
  have hsize := relaysPageSize_le t (by decide) (relaysSettings_actuatorBoard 15)
    ⟨by decide, by decide⟩ (by decide) (by decide) (by decide) (by decide) hrun hfits
  revert hsize
  decide +kernel

end Web
