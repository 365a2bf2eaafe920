import RelayBoard.Framework.Lines
import RelayBoard.Platform.Json
import RelayBoard.Web.Http
import RelayBoard.Web.SizedPlaceholder

/-! # Static Files

  `static_stream_handler` of `main/web.c` without placeholder replacement: from the URI to
  a path, and from the lines of the file to the chunks of the response. The file
  determines which files are served whole or refused.
-/

open CString

namespace Web

/-! ### The Handler -/

/-- `STREAM_LINE_BUF_SZ`. -/
def streamLineBufSz : Nat := 4096

/-- `STREAM_READ_LINE_SZ`. -/
def streamReadLineSz : Nat := 2048

/-- `STATIC_PATH_PREFIX`. -/
def staticPathPrefix : CStr := "/spiffs/static-".toList

/-- The types of `content_type_from_ext`, by extension. -/
def contentTypes : List (CStr × CStr) :=
  [(".html".toList, "text/html".toList), (".css".toList, "text/css".toList),
    (".js".toList, "application/javascript".toList), (".json".toList, "application/json".toList),
    (".svg".toList, "image/svg+xml".toList), (".png".toList, "image/png".toList),
    (".jpg".toList, "image/jpeg".toList), (".jpeg".toList, "image/jpeg".toList),
    (".ico".toList, "image/x-icon".toList), (".txt".toList, "text/plain".toList)]

/-- `content_type_from_ext`. -/
def contentTypeFromExt (path : CStr) : CStr :=
  match strrchr '.' path with
  | none => "application/octet-stream".toList
  | some dot =>
      match contentTypes.find? fun t => Json.caseInsensitiveEq dot t.1 with
      | some t => t.2
      | none => "application/octet-stream".toList

/-- The characters of a name that are let through. -/
def isNameSymbol (c : Char) : Bool := c.isAlphanum || c = '-' || c = '_' || c = '.'

/-- The loop that fills `mapped_name`, with room for `n` more characters. -/
def mapName : Nat → CStr → Except Sent CStr
  | 0, _ => .ok []
  | _ + 1, [] => .ok []
  | n + 1, c :: name =>
      if c = '.' ∧ name.head? = some '.' then
        .error (.err .badRequest (some "invalid path".toList))
      else
        let mapped := if c = '/' then '-' else c
        if isNameSymbol mapped = false then
          .error (.err .badRequest (some "invalid characters in path".toList))
        else (mapName n name).map (mapped :: ·)

/-- The path for a URI, or the response to a URI that is refused. -/
def staticPath (uri : CStr) : Except Sent CStr :=
  if uri.take 8 ≠ "/static/".toList ∨ uri.drop 8 = [] then .error (.err .notFound none)
  else
    match mapName 127 (uri.drop 8) with
    | .error sent => .error sent
    | .ok [] => .error (.err .notFound none)
    | .ok mappedName => .ok (snprintf 192 (staticPathPrefix ++ mappedName))

/-- The loop over the lines: the chunks that are sent, and the error response in their
    midst, if any. -/
def streamLines (s : CStr) : List CStr × Option Sent :=
  match _h : fgets streamReadLineSz s with
  | none => ([], none)
  | some (readLine, rest, eof) =>
      let line := cText readLine
      if line.length = streamReadLineSz - 1 ∧ line.getLast? ≠ some '\n' ∧ eof = false then
        ([], some (.err .internalServerError (some "template line too long".toList)))
      else
        let (chunks, ending) := streamLines rest
        (strlcpy streamLineBufSz line :: chunks, ending)
termination_by s.length
decreasing_by exact length_fgets_lt _h

/-- The files, and the two allocations of the handler. -/
structure StaticEnv where
  fopen : CStr → Option CStr
  readLine : Bool
  workLine : Bool

/-- What the handler does: the path it opens, the chunks it sends and how it ends. -/
structure StaticReply where
  opened : Option CStr
  contentType : Option CStr
  chunks : List CStr
  /-- An error response; `none` is the last chunk, of length 0. -/
  ending : Option Sent

/-- `static_stream_handler`, where every chunk is sent. -/
def staticStreamHandler (env : StaticEnv) (uri : CStr) : StaticReply :=
  match staticPath uri with
  | .error sent => ⟨none, none, [], some sent⟩
  | .ok filepath =>
      match env.fopen filepath with
      | none => ⟨some filepath, none, [], some (.err .notFound none)⟩
      | some content =>
          let contentType := contentTypeFromExt uri
          if env.readLine = false ∨ env.workLine = false then
            ⟨some filepath, some contentType, [], some httpdRespSend500⟩
          else
            let (chunks, ending) := streamLines content
            ⟨some filepath, some contentType, chunks, ending⟩

/-- The body of a chunked response ends at the first chunk of length 0. -/
def StaticReply.body (reply : StaticReply) : CStr :=
  (reply.chunks.takeWhile fun chunk => chunk ≠ []).flatten

/-- The whole file, and nothing else. -/
def StaticReply.Serves (reply : StaticReply) (content : CStr) : Prop :=
  reply.ending = none ∧ reply.body = content

/-- An error response, and no file data before it. -/
def StaticReply.Refuses (reply : StaticReply) : Prop :=
  reply.ending ≠ none ∧ reply.chunks = []

/-! ### One Line -/

/-- Every line fits the buffer that is read into. -/
def LinesFit (content : CStr) : Prop :=
  ∀ line ∈ content.splitOn '\n', line.length < streamReadLineSz - 1

/-- The buffer is full before the first line ends. -/
def FirstTooLong (content : CStr) : Prop :=
  streamReadLineSz - 1 ≤ content.length ∧ nul ∉ content.take (streamReadLineSz - 1) ∧
    '\n' ∉ content.take (streamReadLineSz - 1)

instance (content : CStr) : Decidable (LinesFit content) :=
  inferInstanceAs (Decidable (∀ line ∈ content.splitOn '\n', _))

instance (content : CStr) : Decidable (FirstTooLong content) :=
  inferInstanceAs (Decidable (_ ≤ _ ∧ _ ∉ _ ∧ _ ∉ _))

theorem length_cText_le (s : CStr) : (cText s).length ≤ s.length :=
  (List.takeWhile_prefix _).length_le

theorem cText_append_nul {s rest : CStr} (h : nul ∉ s) : cText (s ++ nul :: rest) = s :=
  takeWhile_ne_append h (.inr ⟨rest, rfl⟩)

theorem cText_of_not_mem {s : CStr} (h : nul ∉ s) : cText s = s := by
  have hall : cText (s ++ []) = s := takeWhile_ne_append h (.inl rfl)
  rw [List.append_nil] at hall
  exact hall

/-- A NUL cuts a string. -/
theorem length_cText_lt {s : CStr} (h : nul ∈ s) : (cText s).length < s.length := by
  obtain ⟨v, rest, rfl, hv, hrest⟩ := exists_upTo s nul
  rcases hrest with rfl | ⟨r, rfl⟩
  · rw [List.append_nil] at h
    exact absurd h hv
  · rw [cText_append_nul hv, List.length_append, List.length_cons]
    omega

theorem strlcpy_cText {s : CStr} (h : s.length < streamReadLineSz) :
    strlcpy streamLineBufSz (cText s) = cText s := by
  have hpre : cText s <+: s := List.takeWhile_prefix _
  have hlen := hpre.length_le
  unfold streamReadLineSz at h
  apply List.take_of_length_le
  unfold streamLineBufSz
  omega

/-- Text without a newline is part of a line at least as long. -/
theorem exists_line {w rest : CStr} (hw : '\n' ∉ w) :
    ∃ line ∈ (w ++ rest).splitOn '\n', w.length ≤ line.length := by
  obtain ⟨v, r, rfl, hv, hr⟩ := exists_upTo rest '\n'
  have hwv : '\n' ∉ w ++ v := fun hmem => (List.mem_append.mp hmem).elim hw hv
  have hlen : w.length ≤ (w ++ v).length := by
    rw [List.length_append]
    exact Nat.le_add_right _ _
  refine ⟨w ++ v, ?_, hlen⟩
  rw [← List.append_assoc]
  rcases hr with rfl | ⟨r', rfl⟩
  · rw [List.append_nil, List.splitOn_eq_singleton hwv]
    exact List.mem_cons_self
  · rw [List.splitOn_append_cons_self, List.splitOn_eq_singleton hwv]
    exact List.mem_cons_self

theorem not_linesFit {s : CStr} (h : FirstTooLong s) : ¬ LinesFit s := by
  intro hfit
  obtain ⟨line, hmem, hlen⟩ := @exists_line _ (s.drop (streamReadLineSz - 1)) h.2.2
  rw [List.take_append_drop] at hmem
  have hlt := hfit line hmem
  rw [List.length_take, Nat.min_eq_left h.1] at hlen
  omega

/-- The error of a line that is too long. -/
def lineTooLong : Sent := .err .internalServerError (some "template line too long".toList)

/-- What one turn of the loop does. -/
theorem streamLines_cases {s : CStr} (hs : s ≠ []) :
    FirstTooLong s ∧ streamLines s = ([], some lineTooLong) ∨
    ¬ FirstTooLong s ∧ ∃ piece rest, s = piece ++ rest ∧ piece ≠ [] ∧
      (nul ∉ piece → (LinesFit s ↔ LinesFit rest)) ∧
      streamLines s = (cText piece :: (streamLines rest).1, (streamLines rest).2) := by
  -- where `fgets` has read `piece`, and the check lets it through
  have hthrough : ∀ {piece rest : CStr} {eof : Bool},
      fgets streamReadLineSz s = some (piece, rest, eof) → piece.length < streamReadLineSz →
      ¬ ((cText piece).length = streamReadLineSz - 1 ∧
        (cText piece).getLast? ≠ some '\n' ∧ eof = false) →
      streamLines s = (cText piece :: (streamLines rest).1, (streamLines rest).2) := by
    intro piece rest eof hread hlen hcheck
    conv_lhs => unfold streamLines
    split
    · next hnone => exact absurd (hnone.symm.trans hread) (by simp)
    · next piece' rest' eof' hread' =>
        rw [hread, Option.some.injEq, Prod.mk.injEq, Prod.mk.injEq] at hread'
        obtain ⟨rfl, rfl, rfl⟩ := hread'
        rw [if_neg hcheck, strlcpy_cText hlen]
  rcases fgets_cases (n := 2046) hs with ⟨w, rest, hw, hlen, heq, hread⟩ |
    ⟨w, rest, hw, hlen, heq, hread⟩ | ⟨hw, hlen, hread⟩
  · -- a line with its newline
    have hpiece : (w ++ ['\n']).length = w.length + 1 := by simp
    have hlt : w.length < streamReadLineSz - 1 := Nat.lt_succ_of_le hlen
    have hpre : w ++ ['\n'] <+: s.take (streamReadLineSz - 1) := by
      rw [List.prefix_take_iff, hpiece, heq]
      exact ⟨⟨rest, by simp⟩, hlt⟩
    have hfirst : ¬ FirstTooLong s := fun hlong =>
      hlong.2.2 (hpre.subset (List.mem_append_right _ List.mem_cons_self))
    refine .inr ⟨hfirst, w ++ ['\n'], rest, by simp [heq], by simp, fun _ => ?_,
      hthrough hread ?_ ?_⟩
    · unfold LinesFit
      rw [heq, List.splitOn_append_cons_self, List.splitOn_eq_singleton hw,
        List.forall_mem_append, List.forall_mem_singleton]
      exact ⟨fun h => h.2, fun h => ⟨hlt, h⟩⟩
    · rw [hpiece]
      exact Nat.lt_succ_of_le (Nat.succ_le_succ hlen)
    · intro ⟨hfull, hlast, _⟩
      by_cases hnul : nul ∈ w ++ ['\n']
      · have := length_cText_lt hnul
        unfold streamReadLineSz at hfull
        omega
      · rw [cText_of_not_mem hnul] at hlast
        exact hlast (by simp)
  · -- a full buffer
    have htake : s.take (streamReadLineSz - 1) = w := by
      rw [heq]
      exact List.take_left' hlen
    have hsize : streamReadLineSz - 1 ≤ s.length := by
      rw [heq, List.length_append, hlen]
      exact Nat.le_add_right _ _
    by_cases hnul : nul ∈ w
    · have hlt := length_cText_lt hnul
      refine .inr ⟨fun hlong => hlong.2.1 (htake ▸ hnul), w, rest, heq, ?_,
        fun hnot => absurd hnul hnot, hthrough hread ?_ ?_⟩
      · exact List.ne_nil_of_mem hnul
      · rw [hlen]
        decide
      · intro ⟨hfull, _⟩
        unfold streamReadLineSz at hfull
        omega
    · refine .inl ⟨⟨hsize, htake ▸ hnul, htake ▸ hw⟩, ?_⟩
      have hlast : w.getLast? ≠ some '\n' := fun h => hw (List.mem_of_getLast? h)
      unfold streamLines
      split
      · next hnone => exact absurd (hnone.symm.trans hread) (by simp)
      · next piece rest' eof hread' =>
          rw [show streamReadLineSz = 2046 + 2 from rfl, hread, Option.some.injEq, Prod.mk.injEq,
            Prod.mk.injEq] at hread'
          obtain ⟨rfl, rfl, rfl⟩ := hread'
          rw [cText_of_not_mem hnul, if_pos ⟨hlen, hlast, rfl⟩]
          rfl
  · -- the rest of the file
    refine .inr ⟨fun hlong => ?_, s, [], (List.append_nil s).symm, hs, fun _ => ?_,
      hthrough hread ?_ ?_⟩
    · have := hlong.1
      unfold streamReadLineSz at this
      omega
    · unfold LinesFit
      rw [List.splitOn_eq_singleton hw, List.splitOn_nil, List.forall_mem_singleton,
        List.forall_mem_singleton]
      have hlt : s.length < streamReadLineSz - 1 := Nat.lt_succ_of_le hlen
      exact ⟨fun _ => by decide, fun _ => hlt⟩
    · exact Nat.lt_of_le_of_lt hlen (by decide)
    · exact fun h => absurd h.2.2 (by decide)

/-! ### All Lines -/

theorem streamLines_nil : streamLines [] = ([], none) := by
  unfold streamLines
  rfl

/-- Where the first line is too long, and only there, the answer is an error alone. -/
theorem streamLines_refuses_iff (s : CStr) :
    (streamLines s).2 ≠ none ∧ (streamLines s).1 = [] ↔ FirstTooLong s := by
  by_cases hs : s = []
  · subst hs
    rw [streamLines_nil]
    constructor
    · exact fun h => absurd rfl h.1
    · exact fun h => absurd h.1 (by decide)
  · rcases streamLines_cases hs with ⟨hlong, hrun⟩ | ⟨hlong, piece, rest, _, _, _, hrun⟩
    · rw [hrun]
      exact ⟨fun _ => hlong, fun _ => ⟨Option.some_ne_none _, rfl⟩⟩
    · rw [hrun]
      exact ⟨fun h => absurd h.2 (List.cons_ne_nil _ _), fun h => absurd h hlong⟩

/-- No more is sent than the file has, and less where it has a NUL. -/
theorem length_streamLines (s : CStr) : (streamLines s).1.flatten.length ≤ s.length ∧
    ((streamLines s).2 = none → nul ∈ s → (streamLines s).1.flatten.length < s.length) := by
  induction hn : s.length using Nat.strong_induction_on generalizing s with
  | _ n ih =>
      by_cases hs : s = []
      · subst hs
        rw [streamLines_nil]
        exact ⟨Nat.zero_le _, fun _ hmem => absurd hmem List.not_mem_nil⟩
      · rcases streamLines_cases hs with ⟨_, hrun⟩ | ⟨_, piece, rest, heq, hne, _, hrun⟩
        · rw [hrun]
          exact ⟨Nat.zero_le _, fun h => absurd h (Option.some_ne_none _)⟩
        · have hpos := List.length_pos_iff.mpr hne
          have hlen : s.length = piece.length + rest.length := by rw [heq, List.length_append]
          obtain ⟨hle, hlt⟩ := ih rest.length (by omega) rest rfl
          have hpiece := length_cText_le piece
          rw [hrun, List.flatten_cons, List.length_append]
          refine ⟨by omega, fun hnone hmem => ?_⟩
          -- the NUL is in this piece or behind it
          rw [heq] at hmem
          rcases List.mem_append.mp hmem with hmem | hmem
          · have := length_cText_lt hmem
            omega
          · have := hlt hnone hmem
            omega

/-- Without a NUL the file is sent whole exactly if its lines fit. -/
theorem streamLines_of_no_nul {s : CStr} (h : nul ∉ s) :
    ((streamLines s).2 = none ↔ LinesFit s) ∧
      ((streamLines s).2 = none → (streamLines s).1.flatten = s ∧ [] ∉ (streamLines s).1) := by
  induction hn : s.length using Nat.strong_induction_on generalizing s with
  | _ n ih =>
      by_cases hs : s = []
      · subst hs
        rw [streamLines_nil]
        exact ⟨⟨fun _ => by decide, fun _ => rfl⟩, fun _ => ⟨rfl, List.not_mem_nil⟩⟩
      · rcases streamLines_cases hs with ⟨hlong, hrun⟩ | ⟨_, piece, rest, heq, hne, hfit, hrun⟩
        · rw [hrun]
          exact ⟨⟨fun hnone => absurd hnone (Option.some_ne_none _),
            fun hfit => absurd hfit (not_linesFit hlong)⟩,
            fun hnone => absurd hnone (Option.some_ne_none _)⟩
        · have hpos := List.length_pos_iff.mpr hne
          have hlen : s.length = piece.length + rest.length := by rw [heq, List.length_append]
          rw [heq, List.mem_append, not_or] at h
          obtain ⟨hiff, hwhole⟩ := ih rest.length (by omega) h.2 rfl
          rw [hrun, hfit h.1, cText_of_not_mem h.1]
          refine ⟨hiff, fun hnone => ?_⟩
          obtain ⟨hflat, hchunks⟩ := hwhole hnone
          rw [List.flatten_cons, hflat, List.mem_cons, not_or]
          exact ⟨heq.symm, Ne.symm hne, hchunks⟩

/-! ### Whole or Refused -/

theorem length_body_le (reply : StaticReply) :
    reply.body.length ≤ reply.chunks.flatten.length := by
  unfold StaticReply.body
  obtain ⟨more, hmore⟩ := List.takeWhile_prefix (l := reply.chunks) fun chunk => chunk ≠ []
  conv_rhs => rw [← hmore, List.flatten_append, List.length_append]
  exact Nat.le_add_right _ _

theorem body_of_not_mem {reply : StaticReply} (h : [] ∉ reply.chunks) :
    reply.body = reply.chunks.flatten := by
  unfold StaticReply.body
  congr 1
  generalize reply.chunks = chunks at h ⊢
  induction chunks with
  | nil => rfl
  | cons chunk chunks ih =>
      rw [List.mem_cons, not_or] at h
      rw [List.takeWhile_cons, if_pos (decide_eq_true (Ne.symm h.1)), ih h.2]

/-- What is served whole has no NUL. -/
theorem nul_not_mem_of_serves {opened contentType : Option CStr} {content : CStr}
    (h : StaticReply.Serves ⟨opened, contentType, (streamLines content).1,
      (streamLines content).2⟩ content) : nul ∉ content := by
  intro hnul
  have hlt := (length_streamLines content).2 h.1 hnul
  have hle := length_body_le ⟨opened, contentType, (streamLines content).1,
    (streamLines content).2⟩
  rw [h.2] at hle
  exact absurd hlt (Nat.not_lt_of_le hle)

section reply
variable {env : StaticEnv} {uri path content : CStr} (hpath : staticPath uri = .ok path)
  (hfile : env.fopen path = some content)
include hpath hfile

theorem staticStreamHandler_noMem (hmem : env.readLine = false ∨ env.workLine = false) :
    staticStreamHandler env uri =
      ⟨some path, some (contentTypeFromExt uri), [], some httpdRespSend500⟩ := by
  unfold staticStreamHandler
  rw [hpath]
  dsimp only
  rw [hfile]
  dsimp only
  rw [if_pos hmem]

theorem staticStreamHandler_stream (hmem : ¬ (env.readLine = false ∨ env.workLine = false)) :
    staticStreamHandler env uri =
      ⟨some path, some (contentTypeFromExt uri), (streamLines content).1,
        (streamLines content).2⟩ := by
  unfold staticStreamHandler
  rw [hpath]
  dsimp only
  rw [hfile]
  dsimp only
  rw [if_neg hmem]

/-- A file is served whole or refused exactly if it has no NUL and its lines fit, or if
    nothing of it is sent at all. -/
theorem staticStreamHandler_serves_iff :
    (staticStreamHandler env uri).Serves content ∨ (staticStreamHandler env uri).Refuses ↔
      env.readLine = false ∨ env.workLine = false ∨ nul ∉ content ∧ LinesFit content ∨
        FirstTooLong content := by
  by_cases hmem : env.readLine = false ∨ env.workLine = false
  · rw [staticStreamHandler_noMem hpath hfile hmem]
    constructor
    · exact fun _ => hmem.elim .inl fun h => .inr (.inl h)
    · exact fun _ => .inr ⟨Option.some_ne_none _, rfl⟩
  · rw [staticStreamHandler_stream hpath hfile hmem]
    rw [not_or] at hmem
    have hrefuses := streamLines_refuses_iff content
    constructor
    · rintro (hserves | hrefused)
      · have hnul := nul_not_mem_of_serves hserves
        exact .inr (.inr (.inl ⟨hnul, (streamLines_of_no_nul hnul).1.mp hserves.1⟩))
      · exact .inr (.inr (.inr (hrefuses.mp hrefused)))
    · rintro (h | h | ⟨hnul, hfit⟩ | hlong)
      · exact absurd h hmem.1
      · exact absurd h hmem.2
      · obtain ⟨hiff, hwhole⟩ := streamLines_of_no_nul hnul
        have hnone := hiff.mpr hfit
        obtain ⟨hflat, hchunks⟩ := hwhole hnone
        exact .inl ⟨hnone, (body_of_not_mem hchunks).trans hflat⟩
      · exact .inr (hrefuses.mpr hlong)

end reply

/-- The first bytes of every PNG file. -/
def pngFile : CStr :=
  [0x89, 0x50, 0x4e, 0x47, 0x0d, 0x0a, 0x1a, 0x0a, 0, 0, 0, 0x0d].map Char.ofNat

/-- A file system with two files. -/
def twoFiles (path : CStr) : Option CStr :=
  if path = "/spiffs/static-logo.png".toList then some pngFile
  else if path = "/spiffs/static-a-b.txt".toList then some "a\nb\n".toList
  else none

/-- A text file under a directory. -/
theorem staticStreamHandler_serves_iff_text :
    (staticStreamHandler ⟨twoFiles, true, true⟩ "/static/a/b.txt".toList).Serves
        "a\nb\n".toList ∨
      (staticStreamHandler ⟨twoFiles, true, true⟩ "/static/a/b.txt".toList).Refuses ↔
      true = false ∨ true = false ∨ nul ∉ "a\nb\n".toList ∧ LinesFit "a\nb\n".toList ∨
        FirstTooLong "a\nb\n".toList := by
  have hpath : staticPath "/static/a/b.txt".toList =
      .ok "/spiffs/static-a-b.txt".toList := by decide +kernel
  have hfile : twoFiles "/spiffs/static-a-b.txt".toList = some "a\nb\n".toList := by
    decide +kernel
  exact staticStreamHandler_serves_iff hpath hfile

/-- A picture is neither served whole nor refused: its lines are cut where they have a
    NUL. -/
theorem not_staticStreamHandler_serves : ¬ ∀ (uri path content : CStr) (env : StaticEnv),
    staticPath uri = .ok path → env.fopen path = some content →
      (staticStreamHandler env uri).Serves content ∨
        (staticStreamHandler env uri).Refuses := by
  intro h
  have hpath : staticPath "/static/logo.png".toList =
      .ok "/spiffs/static-logo.png".toList := by decide +kernel
  have hfile : twoFiles "/spiffs/static-logo.png".toList = some pngFile := by decide +kernel
  have hserves := h _ _ _ ⟨twoFiles, true, true⟩ hpath hfile
  rw [staticStreamHandler_stream hpath hfile (by decide)] at hserves
  rcases hserves with hserves | hrefuses
  · exact absurd (nul_not_mem_of_serves hserves) (by decide)
  · exact absurd ((streamLines_refuses_iff pngFile).mp hrefuses) (by decide)

end Web
