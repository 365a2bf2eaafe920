import RelayBoard.Framework.CSearch
import RelayBoard.Framework.Url
import RelayBoard.Platform.Esp

/-! # The Storage URL

  `generate_storage_update_url` of `main/settings.c` cuts the text of the firmware URL
  behind its last slash; `deriveBuildInfoUrl` of the configuration page replaces the last
  segment of its path. The file determines for which URLs both stay in the directory of
  the firmware.
-/

open CString Url

namespace StorageUrl

/-! ### The Device -/

/-- `OTA_STORAGE_IMAGE_NAME`. -/
def otaStorageImageName : CStr := "storage.bin".toList

/-- `generate_storage_update_url`. `none` and `storageUrl = false` are `NULL`, and
    `mem = false` is a `malloc` that fails. -/
def generateStorageUpdateUrl (firmwareUrl : Option CStr) (storageUrl mem : Bool) :
    Except EspErr CStr :=
  match firmwareUrl with
  | none => .error .invalidArg
  | some firmwareUrl =>
      if storageUrl = false then .error .invalidArg
      else
        match strrchr '/' firmwareUrl with
        | none => .error .invalidArg
        | some lastSlash =>
            let baseLength := firmwareUrl.length - lastSlash.length + 1
            if mem = false then .error .noMem
            else .ok (firmwareUrl.take baseLength ++ otaStorageImageName)

/-! ### The Configuration Page -/

def buildInfoName : CStr := "build_info.json".toList

/-- The last slash of `pathname` and what follows it, replaced by a slash. -/
def removeFilename (path : CStr) : CStr :=
  match strrchr '/' path with
  | none => path
  | some filename => path.take (path.length - filename.length) ++ "/".toList

/-- `deriveBuildInfoUrl`. -/
def deriveBuildInfoUrl (browser : Browser) (otaBinUrl : CStr) : Option CStr :=
  (browser.newUrl otaBinUrl).map fun u =>
    let dir := removeFilename u.pathname
    { u.setPathname (dir ++ buildInfoName) with query := none, fragment := none }.text

/-! ### Siblings -/

/-- `scheme://host/dirs/name`. -/
def sibling (u : Parts) (name : CStr) : Parts :=
  ⟨u.scheme, u.authority, u.path.dropLast ++ [name], none, none⟩

/-- The page looks for `build_info.json` where the image is. -/
def SameDirectory (browser : Browser) (imageUrl otaBinUrl : CStr) : Prop :=
  ∃ dir, (browser.newUrl imageUrl).map Parts.text = some (dir ++ otaStorageImageName) ∧
    deriveBuildInfoUrl browser otaBinUrl = some (dir ++ buildInfoName)

/-- A failure, or the URL of the image next to the firmware. -/
def FailsOrSibling (browser : Browser) (u : Parts) (result : Except EspErr CStr) : Prop :=
  ∀ imageUrl, result = .ok imageUrl →
    imageUrl = (sibling u otaStorageImageName).text ∧ SameDirectory browser imageUrl u.text

/-- The last slash of the text is the last one of the path, and what follows it does not
    lead out of the directory. -/
structure EndsInFile (u : Parts) : Prop where
  path_ne : u.path ≠ []
  tail_slash : '/' ∉ u.tail
  file_stays : ∀ file ∈ u.path.getLast?, isDoubleDot file = true →
    resolveDirs u.path.dropLast = []

theorem sibling_text (u : Parts) (name : CStr) :
    (sibling u name).text = u.origin ++ pathText u.path.dropLast ++ '/' :: name := by
  show u.origin ++ (pathText (u.path.dropLast ++ [name]) ++ []) = _
  rw [pathText_append, pathText_singleton, List.append_nil, List.append_assoc]

theorem sibling_wellFormed {u : Parts} (h : u.WellFormed) {name : CStr}
    (hname : name.all isPartChar = true) : (sibling u name).WellFormed where
  scheme_start := h.scheme_start
  scheme_chars := h.scheme_chars
  authority_ne := h.authority_ne
  authority_chars := h.authority_chars
  path_chars := by
    have hdirs : u.path.dropLast.all (fun seg => seg.all isPartChar) = true :=
      List.all_eq_true.mpr fun seg hseg =>
        List.all_eq_true.mp h.path_chars seg ((List.dropLast_sublist _).subset hseg)
    show (u.path.dropLast ++ [name]).all _ = true
    rw [List.all_append, hdirs]
    simp [hname]
  query_chars := by simp [sibling]
  fragment_chars := by simp [sibling]

/-! ### The Text of the Device -/

/-- The text up to its last slash is kept. -/
theorem generateStorageUpdateUrl_append (l : CStr) {r : CStr} (h : '/' ∉ r) :
    generateStorageUpdateUrl (some (l ++ '/' :: r)) true true =
      .ok (l ++ '/' :: otaStorageImageName) := by
  have hlen : (l ++ '/' :: r).length - ('/' :: r).length + 1 = l.length + 1 := by simp
  have htake : (l ++ '/' :: r).take (l.length + 1) = l ++ ['/'] := by
    rw [List.take_length_add_append]
    rfl
  unfold generateStorageUpdateUrl
  dsimp only
  rw [strrchr_append_cons l h]
  dsimp only
  rw [hlen, htake, List.append_assoc]
  rfl

theorem generateStorageUpdateUrl_noMem (text imageUrl : CStr) :
    generateStorageUpdateUrl (some text) true false ≠ .ok imageUrl := by
  unfold generateStorageUpdateUrl
  dsimp only
  cases strrchr '/' text <;> simp

/-- Every URL has a slash. -/
theorem generateStorageUpdateUrl_text (u : Parts) :
    ∃ imageUrl, generateStorageUpdateUrl (some u.text) true true = .ok imageUrl := by
  have hslash : '/' ∈ u.text := by simp [Parts.text, Parts.origin]
  obtain ⟨l, r, heq, hr⟩ := exists_last hslash
  exact ⟨_, heq ▸ generateStorageUpdateUrl_append l hr⟩

/-- A slash behind the path is the last one. -/
theorem generateStorageUpdateUrl_tail {u : Parts} (h : '/' ∈ u.tail) :
    ∃ imageUrl, generateStorageUpdateUrl (some u.text) true true = .ok imageUrl ∧
      ('?' ∈ imageUrl ∨ '#' ∈ imageUrl) := by
  obtain ⟨l, r, htail, hr⟩ := exists_last h
  have htext : u.text = u.origin ++ pathText u.path ++ l ++ '/' :: r := by
    simp only [Parts.text, htail, List.append_assoc]
  refine ⟨_, htext ▸ generateStorageUpdateUrl_append _ hr, ?_⟩
  -- the tail begins with its mark
  cases l with
  | nil =>
      have hhead : '/' ∈ u.tail.head? := by rw [htail]; rfl
      rcases head?_tail hhead with hmark | hmark <;> exact absurd hmark (by decide)
  | cons c l =>
      have hhead : c ∈ u.tail.head? := by rw [htail]; rfl
      rcases head?_tail hhead with rfl | rfl <;> simp

/-- Nothing of a sibling is behind its path. -/
theorem not_mem_sibling_text {u : Parts} (h : u.WellFormed) {name : CStr}
    (hname : name.all isPartChar = true) {mark : Char} (hmark : mark = '?' ∨ mark = '#') :
    mark ∉ (sibling u name).text := by
  have hends : mark ∈ ['/', '?', '#'] ∧ mark ∉ "://".toList ∧ mark ≠ '/' ∧
      isSchemeChar mark = false := by
    rcases hmark with rfl | rfl <;> decide
  rw [sibling_text]
  intro hmem
  simp only [Parts.origin, List.mem_append, List.mem_cons] at hmem
  rcases hmem with (((hscheme | hsep) | hauthority) | hpath) | hslash | hlast
  · exact h.not_mem_scheme hends.2.2.2 hscheme
  · exact hends.2.1 hsep
  · exact h.not_mem_authority hends.1 hauthority
  · rcases mem_pathText hpath with hslash | ⟨seg, hseg, hc⟩
    · exact hends.2.2.1 hslash
    · exact h.not_mem_segment ((List.dropLast_sublist _).subset hseg) hends.1 hc
  · exact hends.2.2.1 hslash
  · exact not_mem_ends hname hlast hends.1

theorem otaStorageImageName_chars : otaStorageImageName.all isPartChar = true := by decide

/-- The device makes the sibling exactly if the last slash is in the path. -/
theorem generateStorageUpdateUrl_eq_iff {u : Parts} (h : u.WellFormed) :
    generateStorageUpdateUrl (some u.text) true true =
        .ok (sibling u otaStorageImageName).text ↔ u.path ≠ [] ∧ '/' ∉ u.tail := by
  constructor
  · intro hsibling
    have htail : '/' ∉ u.tail := by
      intro hmem
      obtain ⟨imageUrl, himage, hmark⟩ := generateStorageUpdateUrl_tail hmem
      rw [himage, Except.ok.injEq] at hsibling
      subst hsibling
      exact hmark.elim (not_mem_sibling_text h otaStorageImageName_chars (.inl rfl))
        (not_mem_sibling_text h otaStorageImageName_chars (.inr rfl))
    refine ⟨fun hpath => ?_, htail⟩
    -- without a path the last slash is the one in front of the host
    have hhost : '/' ∉ u.authority ++ u.tail := by
      rw [List.mem_append, not_or]
      exact ⟨h.not_mem_authority List.mem_cons_self, htail⟩
    have htext : u.text = (u.scheme ++ ":/".toList) ++ '/' :: (u.authority ++ u.tail) := by
      unfold Parts.text Parts.origin
      rw [hpath]
      simp [pathText]
    rw [htext, generateStorageUpdateUrl_append _ hhost, sibling_text, hpath,
      Except.ok.injEq] at hsibling
    have hlen := congrArg List.length hsibling
    have hpos := List.length_pos_iff.mpr h.authority_ne
    simp [Parts.origin, pathText] at hlen
    omega
  · rintro ⟨hpath, htail⟩
    have hdirs := List.dropLast_append_getLast hpath
    have hfile : '/' ∉ u.path.getLast hpath ++ u.tail := by
      rw [List.mem_append, not_or]
      exact ⟨h.not_mem_segment (List.getLast_mem hpath) List.mem_cons_self, htail⟩
    have htext : u.text = u.origin ++ pathText u.path.dropLast ++
        '/' :: (u.path.getLast hpath ++ u.tail) := by
      unfold Parts.text
      conv_lhs => rw [← hdirs]
      rw [pathText_append, pathText_singleton]
      simp only [List.append_assoc, List.cons_append]
    rw [htext, generateStorageUpdateUrl_append _ hfile, sibling_text]

/-! ### The Record of the Page -/

/-- The last segment of a path gives way to the name. -/
theorem pathSegments_removeFilename {path : List CStr} (hpath : ∀ seg ∈ path, '/' ∉ seg)
    {name : CStr} (hname : '/' ∉ name) (hne : name ≠ []) :
    pathSegments (removeFilename (pathText path) ++ name) = path.dropLast ++ [name] := by
  by_cases hempty : path = []
  · subst hempty
    show pathSegments name = [name]
    obtain ⟨c, s, rfl⟩ := List.exists_cons_of_ne_nil hne
    have hc : c ≠ '/' := fun heq => hname (heq ▸ List.mem_cons_self)
    show (if c = '/' then _ else List.splitOn '/' (c :: s)) = _
    rw [if_neg hc, List.splitOn_eq_singleton hname]
  · have hdirs := List.dropLast_append_getLast hempty
    have htext : pathText path = pathText path.dropLast ++ '/' :: path.getLast hempty := by
      conv_lhs => rw [← hdirs]
      rw [pathText_append, pathText_singleton]
    have hremove : removeFilename (pathText path) = pathText path.dropLast ++ ['/'] := by
      unfold removeFilename
      rw [htext, strrchr_append_cons _ (hpath _ (List.getLast_mem hempty))]
      simp
    have hsegments : ∀ seg ∈ path.dropLast ++ [name], '/' ∉ seg := by
      intro seg hseg
      rcases List.mem_append.mp hseg with hdir | hlast
      · exact hpath seg ((List.dropLast_sublist _).subset hdir)
      · rw [List.mem_singleton] at hlast
        exact hlast ▸ hname
    have hjoin : pathText path.dropLast ++ ['/'] ++ name =
        pathText (path.dropLast ++ [name]) := by
      rw [pathText_append, pathText_singleton, List.append_assoc]
      rfl
    rw [hremove, hjoin, pathSegments_pathText hsegments]

/-- Two files with one directory text in front of them. -/
theorem exists_dir_iff {origin d₁ d₂ name₁ name₂ : CStr} :
    (∃ dir, some (origin ++ d₁ ++ '/' :: name₁) = some (dir ++ name₁) ∧
      some (origin ++ d₂ ++ '/' :: name₂) = some (dir ++ name₂)) ↔ d₁ = d₂ := by
  have hcut : ∀ d name : CStr, origin ++ d ++ '/' :: name = origin ++ d ++ ['/'] ++ name :=
    fun d name => by simp
  constructor
  · rintro ⟨dir, h₁, h₂⟩
    rw [Option.some.injEq, hcut] at h₁ h₂
    have hdir := (List.append_cancel_right h₁).trans (List.append_cancel_right h₂).symm
    exact List.append_cancel_left (List.append_cancel_right hdir)
  · intro heq
    subst heq
    exact ⟨origin ++ d₁ ++ ['/'], by rw [hcut], by rw [hcut]⟩

theorem pathText_dropLast_eq_iff (path : List CStr) :
    pathText path = pathText path.dropLast ↔ path = [] := by
  constructor
  · intro heq
    by_contra hne
    have hlen := congrArg List.length heq
    conv_lhs at hlen => rw [← List.dropLast_append_getLast hne]
    rw [pathText_append, pathText_singleton, List.length_append, List.length_cons] at hlen
    omega
  · intro heq
    rw [heq]
    rfl

section record
variable {browser : Browser} {u : Parts} {host : CStr} (h : u.WellFormed)
  (hfile : u.scheme.map Char.toLower ≠ "file".toList)
  (hhost : browser.authority (u.scheme.map Char.toLower) u.authority = some host)
include h hfile hhost

/-- Where the page looks: the directory of the record, on its host. -/
theorem deriveBuildInfoUrl_text : deriveBuildInfoUrl browser u.text =
    some (u.scheme.map Char.toLower ++ "://".toList ++ host ++
      pathText (recordPath (u.scheme.map Char.toLower) u.path).dropLast ++
        '/' :: buildInfoName) := by
  have hsegments : ∀ seg ∈ recordPath (u.scheme.map Char.toLower) u.path, '/' ∉ seg := by
    intro seg hseg
    rcases mem_recordPath hseg with hseg | rfl
    · exact h.not_mem_segment hseg List.mem_cons_self
    · exact List.not_mem_nil
  have hname : '/' ∉ buildInfoName ∧ buildInfoName ≠ [] ∧
      isDoubleDot buildInfoName = false ∧ isSingleDot buildInfoName = false := by
    decide
  have hdirs := resolveDirs_of_no_dots fun seg =>
    @mem_dropLast_recordPath (u.scheme.map Char.toLower) u.path seg
  unfold deriveBuildInfoUrl
  rw [Browser.newUrl_text h hfile hhost]
  simp only [Option.map_some, Parts.pathname, Parts.setPathname]
  rw [pathSegments_removeFilename hsegments hname.1 hname.2.1, recordPath_append_singleton,
    resolvePath_file hname.2.2.1 hname.2.2.2, hdirs]
  simp [Parts.text, Parts.origin, Parts.tail, partText, pathText_append]

/-- Where the browser sees a sibling. -/
theorem newUrl_sibling {name : CStr} (hname : name.all isPartChar = true)
    (hdouble : isDoubleDot name = false) (hsingle : isSingleDot name = false) :
    (browser.newUrl (sibling u name).text).map Parts.text =
      some (u.scheme.map Char.toLower ++ "://".toList ++ host ++
        pathText (resolveDirs u.path.dropLast) ++ '/' :: name) := by
  have hwell := sibling_wellFormed h hname
  rw [Browser.newUrl_text hwell hfile hhost]
  show some (Parts.text ⟨_, _, recordPath _ (u.path.dropLast ++ [name]), none, none⟩) = _
  rw [recordPath_append_singleton, resolvePath_file hdouble hsingle]
  simp [Parts.text, Parts.origin, Parts.tail, partText, pathText_append, sibling]

/-- Both look in one directory exactly if the last segment stays in it. -/
theorem sameDirectory_iff (hpath : u.path ≠ []) :
    SameDirectory browser (sibling u otaStorageImageName).text u.text ↔
      ∀ file ∈ u.path.getLast?, isDoubleDot file = true → resolveDirs u.path.dropLast = [] := by
  have hname : isDoubleDot otaStorageImageName = false ∧
      isSingleDot otaStorageImageName = false := by decide
  have hdirs := List.dropLast_append_getLast hpath
  have hlast := List.getLast?_eq_some_getLast hpath
  -- the directories of the two URLs
  have hrecord : (recordPath (u.scheme.map Char.toLower) u.path).dropLast =
      if isDoubleDot (u.path.getLast hpath) then (resolveDirs u.path.dropLast).dropLast
      else resolveDirs u.path.dropLast := by
    conv_lhs => rw [← hdirs]
    rw [recordPath_append_singleton, dropLast_resolvePath]
  have hiff : SameDirectory browser (sibling u otaStorageImageName).text u.text ↔
      pathText (resolveDirs u.path.dropLast) =
        pathText (recordPath (u.scheme.map Char.toLower) u.path).dropLast := by
    unfold SameDirectory
    rw [newUrl_sibling h hfile hhost otaStorageImageName_chars hname.1 hname.2,
      deriveBuildInfoUrl_text h hfile hhost]
    exact exists_dir_iff
  rw [hiff, hrecord, hlast]
  show _ ↔ ∀ file, some _ = some file → _
  by_cases hdouble : isDoubleDot (u.path.getLast hpath) = true
  · rw [if_pos hdouble, pathText_dropLast_eq_iff]
    exact ⟨fun hroot _ _ _ => hroot, fun hstays => hstays _ rfl hdouble⟩
  · rw [if_neg hdouble]
    refine ⟨fun _ file hfile hdot => ?_, fun _ => rfl⟩
    obtain rfl := Option.some.inj hfile
    exact absurd hdot hdouble

/-- The device fails or makes the URL of the image next to the firmware, in the directory
    of the page, exactly if the last slash of the text is in the path and the last segment
    does not lead out of its directory. -/
theorem generateStorageUpdateUrl_sibling_iff (storageUrl mem : Bool) :
    FailsOrSibling browser u (generateStorageUpdateUrl (some u.text) storageUrl mem) ↔
      storageUrl = false ∨ mem = false ∨ EndsInFile u := by
  have hmade := generateStorageUpdateUrl_eq_iff h
  cases storageUrl with
  | false =>
      refine ⟨fun _ => .inl rfl, fun _ imageUrl hok => ?_⟩
      exact absurd hok (by simp [generateStorageUpdateUrl])
  | true =>
      cases mem with
      | false =>
          refine ⟨fun _ => .inr (.inl rfl), fun _ imageUrl hok => ?_⟩
          exact absurd hok (generateStorageUpdateUrl_noMem u.text imageUrl)
      | true =>
          constructor
          · intro hsibling
            obtain ⟨imageUrl, himage⟩ := generateStorageUpdateUrl_text u
            obtain ⟨rfl, hdir⟩ := hsibling imageUrl himage
            obtain ⟨hpath, htail⟩ := hmade.mp himage
            exact .inr (.inr ⟨hpath, htail, (sameDirectory_iff h hfile hhost hpath).mp hdir⟩)
          · rintro (hnull | hmem | hends) imageUrl hok
            · exact absurd hnull (by decide)
            · exact absurd hmem (by decide)
            · rw [hmade.mpr ⟨hends.path_ne, hends.tail_slash⟩, Except.ok.injEq] at hok
              subst hok
              exact ⟨rfl, (sameDirectory_iff h hfile hhost hends.path_ne).mpr hends.file_stays⟩

end record

/-- A browser that takes every host as it is written. -/
def plainBrowser : Browser := ⟨fun _ authority => some authority, fun _ => none⟩

/-- `https://example.com/fw/relayboard.bin` and a query. -/
def firmwareUrl (query : String) : Parts :=
  ⟨"https".toList, "example.com".toList, ["fw".toList, "relayboard.bin".toList],
    some query.toList, none⟩

/-- A query without slashes. -/
theorem generateStorageUpdateUrl_sibling_iff_version :
    FailsOrSibling plainBrowser (firmwareUrl "v=2")
        (generateStorageUpdateUrl (some (firmwareUrl "v=2").text) true true) ↔
      true = false ∨ true = false ∨ EndsInFile (firmwareUrl "v=2") := by
  have hwell : (firmwareUrl "v=2").WellFormed := by decide +kernel
  exact generateStorageUpdateUrl_sibling_iff hwell (by decide) rfl true true

/-- The last slash of a query is taken for the one in front of the file. -/
theorem not_generateStorageUpdateUrl_sibling : ¬ ∀ (browser : Browser) (u : Parts) (host : CStr)
    (storageUrl mem : Bool), u.WellFormed → u.scheme.map Char.toLower ≠ "file".toList →
    browser.authority (u.scheme.map Char.toLower) u.authority = some host →
      FailsOrSibling browser u (generateStorageUpdateUrl (some u.text) storageUrl mem) := by
  intro h
  have hwell : (firmwareUrl "mirror=eu/west").WellFormed := by decide +kernel
  have hmade : generateStorageUpdateUrl (some (firmwareUrl "mirror=eu/west").text) true true =
      .ok "https://example.com/fw/relayboard.bin?mirror=eu/storage.bin".toList := by
    decide +kernel
  have hsibling := h plainBrowser (firmwareUrl "mirror=eu/west") "example.com".toList true true
    hwell (by decide) rfl _ hmade
  exact absurd hsibling.1 (by decide +kernel)

end StorageUrl
