import RelayBoard.Framework.Overwrite
import RelayBoard.Web.SubmitConfig

/-! # How a Form Arrives

  `submit_config_handler`, `reset_post_handler` and `ota_post_handler` of
  `main/web.c` share their receive loop, which puts every piece at the start of the
  buffer. A form reads the same however it arrives exactly if it comes in one piece
  or is too short to carry a value.
-/

open CString Overwrite Settings

namespace Web

/-! ### Arrivals -/

/-- How `httpd_req_recv` hands out a body: the sizes of the pieces, and time-outs in
    between. -/
structure Arrival where
  steps : List (Option Nat)
  pos : ∀ n, some n ∈ steps → 0 < n

/-- An arrival without an empty piece. -/
def Arrival.ofSteps (steps : List (Option Nat)) (h : ∀ step ∈ steps, step ≠ some 0) : Arrival where
  steps := steps
  pos := by
    intro n hn
    apply Nat.pos_of_ne_zero
    rintro rfl
    exact h (some 0) hn rfl

/-- The sizes without the time-outs. -/
def Arrival.sizes (a : Arrival) : List Nat := a.steps.filterMap id

def Arrival.length (a : Arrival) : Nat := a.sizes.sum

/-- The calls that hand out `body`. -/
def deliver : List (Option Nat) → CStr → List Recv
  | [], _ => []
  | none :: steps, body => .timeout :: deliver steps body
  | some n :: steps, body => .data (body.take n) :: deliver steps (body.drop n)

/-- The request of a body that arrives in this way. -/
def FormRequest.arriving (a : Arrival) (body : CStr) : FormRequest :=
  ⟨body.length, deliver a.steps body⟩

/-! ### The Three Handlers -/

/-- The handlers with this receive loop. -/
inductive FormHandler where
  | submitConfig
  | resetPost
  | otaPost
  deriving DecidableEq, Repr

/-- `sizeof(buf)`. -/
def FormHandler.bufSize : FormHandler → Nat
  | .submitConfig => SubmitConfig.bufSize
  | .resetPost => 1024
  | .otaPost => 512

/-- The parameters the handler extracts, in order, with the sizes of their buffers. -/
def FormHandler.params : FormHandler → List (CStr × Nat)
  | .submitConfig =>
      [("mqtt_server=".toList, mqttServerLength), ("mqtt_protocol=".toList, mqttProtocolLength),
        ("mqtt_user=".toList, mqttUserLength), ("mqtt_password=".toList, mqttPasswordLength),
        ("mqtt_prefix=".toList, mqttPrefixLength), ("ha_prefix=".toList, haPrefixLength),
        ("mqtt_port=".toList, 6), ("ha_upd_intervl=".toList, 10), ("mqtt_connect=".toList, 10),
        ("relay_ch_count=".toList, 10), ("relay_sn_count=".toList, 10),
        ("relay_refr_int=".toList, 10), ("ota_update_url=".toList, otaUpdateUrlLength),
        ("net_log_host=".toList, netLoggingHostLength), ("net_log_type=".toList, 6),
        ("net_log_port=".toList, 6), ("net_log_stdout=".toList, 6)]
  | .resetPost =>
      [("device_id=".toList, deviceIdLength + 1), ("device_serial=".toList, deviceSerialLength + 1),
        ("action=".toList, 8)]
  | .otaPost => [("new_sw_version=".toList, 64)]

/-- The values a handler extracts from the text in its buffer. -/
def FormHandler.values (h : FormHandler) (text : CStr) : List CStr :=
  h.params.map fun p => extractParamValue text p.1 p.2

/-- The values a handler extracts from a request; `none` if it does not come that far. -/
def FormHandler.read (h : FormHandler) (req : FormRequest) : Option (List CStr) :=
  (formText h.bufSize req).map h.values

/-- What `submit_config_handler` stores depends on the values it extracts only. -/
theorem submitParams_of_values {text text' : CStr}
    (h : FormHandler.submitConfig.values text = FormHandler.submitConfig.values text') :
    SubmitConfig.submitParams text = SubmitConfig.submitParams text' := by
  simp only [FormHandler.values, FormHandler.params, List.map_cons, List.map_nil,
    List.cons.injEq, and_true] at h
  obtain ⟨h1, h2, h3, h4, h5, h6, h7, h8, h9, h10, h11, h12, h13, h14, h15, h16, h17⟩ := h
  simp only [SubmitConfig.submitParams, SubmitConfig.stringParam, SubmitConfig.numberParam,
    SubmitConfig.uintParam, h1, h2, h3, h4, h5, h6, h7, h8, h9, h10, h11, h12, h13, h14, h15,
    h16, h17]

/-! ### The Receive Loop -/

theorem sizes_eq_nil {steps : List (Option Nat)} (hpos : ∀ n, some n ∈ steps → 0 < n)
    (hsum : (steps.filterMap id).sum = 0) : steps.filterMap id = [] := by
  rw [List.sum_eq_zero_iff_forall_eq_nat] at hsum
  apply List.eq_nil_iff_forall_not_mem.mpr
  intro n hn
  have hmem : some n ∈ steps := by simpa using hn
  have := hpos n hmem
  have := hsum n hn
  omega

/-- One turn of the loop: a piece goes to the start of the buffer. -/
theorem recvBody_data {bytes buf : CStr} {recvs : List Recv} {remaining : Nat}
    (hne : bytes ≠ []) (hrem : bytes.length ≤ remaining) (hbuf : bytes.length ≤ buf.length) :
    recvBody (.data bytes :: recvs) remaining buf =
      recvBody recvs (remaining - bytes.length) (overlay bytes buf) := by
  have hpos := List.length_pos_of_ne_nil hne
  obtain ⟨r, rfl⟩ : ∃ r, remaining = r + 1 := ⟨remaining - 1, by omega⟩
  have hpiece : bytes.take (min (r + 1) buf.length) = bytes :=
    List.take_of_length_le (by omega)
  rw [recvBody, hpiece, if_neg hne]
  rfl

/-- **Loop lemma**: the pieces end up written over each other. -/
theorem recvBody_deliver {steps : List (Option Nat)} (hpos : ∀ n, some n ∈ steps → 0 < n)
    {body front : CStr} {k : Nat} (hsum : (steps.filterMap id).sum = body.length)
    (hfits : body.length ≤ front.length + k) :
    ∃ m, recvBody (deliver steps body) body.length (front ++ List.replicate k nul) =
        some (.ok (overAll (cut (steps.filterMap id) body) front ++ List.replicate m nul)) ∧
      (overAll (cut (steps.filterMap id) body) front).length + m = front.length + k := by
  induction steps generalizing body front k with
  | nil =>
      obtain rfl : body = [] := List.length_eq_zero_iff.mp hsum.symm
      exact ⟨k, rfl, rfl⟩
  | cons step steps ih =>
      have hpos' : ∀ n, some n ∈ steps → 0 < n :=
        fun n hn => hpos n (List.mem_cons_of_mem _ hn)
      cases step with
      | none =>
          cases body with
          | nil =>
              -- nothing is left to receive
              have hnil := sizes_eq_nil hpos (show _ = 0 from hsum)
              rw [hnil]
              exact ⟨k, rfl, rfl⟩
          | cons c body => exact ih hpos' hsum hfits
      | some n =>
          have hn : 0 < n := hpos n List.mem_cons_self
          have hsizes : (some n :: steps).filterMap id = n :: steps.filterMap id := rfl
          rw [hsizes, List.sum_cons] at hsum
          have htake : (body.take n).length = n := by
            rw [List.length_take]
            omega
          have hdrop : (body.drop n).length = body.length - n := List.length_drop
          have hne : body.take n ≠ [] := by
            apply List.ne_nil_of_length_pos
            omega
          have hover : (overlay (body.take n) front).length = max n front.length := by
            rw [length_overlay, htake]
          have hrest : (steps.filterMap id).sum = (body.drop n).length := by omega
          have hroom : (body.drop n).length ≤
              (overlay (body.take n) front).length + (k - (n - front.length)) := by omega
          obtain ⟨m, hloop, hm⟩ := ih hpos' hrest hroom
          refine ⟨m, ?_, by rw [hsizes, cut, overAll, hm]; omega⟩
          rw [deliver, recvBody_data hne (by omega)
            (by rw [List.length_append, List.length_replicate]; omega), overlay_append, htake,
            List.drop_replicate, ← hdrop, hloop, hsizes, cut, overAll]

/-- The text in the buffer: the pieces written over each other. -/
theorem formText_arriving {a : Arrival} {size : Nat} {body : CStr} (hlen : body.length < size)
    (hnul : nul ∉ body) (ha : a.length = body.length) :
    formText size (.arriving a body) = some (overAll (cut a.sizes body) []) := by
  obtain ⟨m, hloop, hm⟩ : ∃ m, recvBody (deliver a.steps body) body.length
      ([] ++ List.replicate size nul) =
        some (.ok (overAll (cut a.sizes body) [] ++ List.replicate m nul)) ∧
      (overAll (cut a.sizes body) []).length + m = 0 + size :=
    recvBody_deliver a.pos ha (by rw [List.length_nil]; omega)
  have hflat : (cut a.sizes body).flatten = body := flatten_cut ha
  have hle := length_overAll_le (cut a.sizes body) []
  rw [hflat, List.length_nil] at hle
  -- the body is shorter than the buffer, so a NUL is left behind it
  obtain ⟨j, rfl⟩ : ∃ j, m = j + 1 := ⟨m - 1, by omega⟩
  have hfree : nul ∉ overAll (cut a.sizes body) [] := by
    intro hmem
    rcases mem_overAll hmem with h | h
    · exact List.not_mem_nil h
    · exact hnul (hflat ▸ h)
  unfold formText FormRequest.arriving
  dsimp only
  rw [← List.nil_append (List.replicate size nul), hloop]
  dsimp only
  rw [bufText, if_pos (List.mem_append_right _ (by simp)),
    takeWhile_ne_append hfree (.inr ⟨_, List.replicate_succ⟩)]

/-! ### Bodies -/

/-- The characters of an urlencoded body. -/
def isFormChar (c : Char) : Bool := c.isAlphanum || "*-._+%&=".toList.contains c

/-- The body of an urlencoded form. -/
def Urlencoded (body : CStr) : Prop := ∀ c ∈ body, isFormChar c = true

instance (body : CStr) : Decidable (Urlencoded body) :=
  decidable_of_iff (body.all isFormChar = true) (by simp [Urlencoded])

theorem Urlencoded.nul_not_mem {body : CStr} (h : Urlencoded body) : nul ∉ body :=
  fun hmem => absurd (h nul hmem) (by decide)

/-- However it arrives, a body reads as in one piece. -/
def ReadsAsOnePiece (h : FormHandler) (a : Arrival) : Prop :=
  ∀ body, Urlencoded body → a.length = body.length →
    h.read (.arriving a body) = h.read (.onePiece body)

/-- Names start with a letter, and there is room for a value. -/
theorem FormHandler.params_spec (h : FormHandler) : ∀ p ∈ h.params,
    p.1 ≠ [] ∧ p.1.head? ≠ some '1' ∧ p.1.all isFormChar = true ∧ 1 < p.2 := by
  cases h <;> decide

/-- A text no longer than the name of a parameter has no value for it. -/
theorem extractParamValue_short {text name : CStr} (h : text.length ≤ name.length) (size : Nat) :
    extractParamValue text name size = [] := by
  by_cases hname : name <:+: text
  · obtain ⟨value, hvalue⟩ := exists_fieldText hname
    have ⟨before, rest, hfirst, _, _⟩ := hvalue
    have hlen := congrArg List.length hfirst.split
    simp only [List.length_append] at hlen
    have hnil : value = [] := List.length_eq_zero_iff.mp (by omega)
    rw [extractParamValue_of_fieldText hvalue, hnil, List.take_nil]
  · exact extractParamValue_of_absent hname size

/-- A body that is one parameter and its value. -/
theorem fieldText_single (name : CStr) {value : CStr} (hvalue : '&' ∉ value) :
    FieldText (name ++ value) name value := by
  refine ⟨[], [], ⟨?_, fun _ _ _ => Nat.zero_le _⟩, hvalue, .inl rfl⟩
  rw [List.append_nil, List.nil_append]

theorem FormHandler.read_arriving (h : FormHandler) {a : Arrival} {body : CStr}
    (hbody : Urlencoded body) (ha : a.length = body.length) (hlen : a.length < h.bufSize) :
    h.read (.arriving a body) = some (h.values (overAll (cut a.sizes body) [])) := by
  rw [FormHandler.read, formText_arriving (ha ▸ hlen) hbody.nul_not_mem ha]
  rfl

theorem FormHandler.read_onePiece (h : FormHandler) {body : CStr} (hbody : Urlencoded body)
    (hlen : body.length < h.bufSize) : h.read (.onePiece body) = some (h.values body) := by
  rw [FormHandler.read, formText_onePiece hlen hbody.nul_not_mem]
  rfl

/-- One piece is the whole. -/
theorem overAll_cut_of_le_one {ns : List Nat} {body : CStr} (hsum : ns.sum = body.length)
    (hone : ns.length ≤ 1) : overAll (cut ns body) [] = body := by
  have hflat := flatten_cut hsum
  cases ns with
  | nil => exact hflat
  | cons n ns =>
      obtain rfl : ns = [] := List.length_eq_zero_iff.mp (by
        rw [List.length_cons] at hone
        omega)
      rw [cut, cut, List.flatten_singleton] at hflat
      rw [cut, cut, hflat]
      exact overlay_nil body

/-- The pieces that a body is cut into are not empty. -/
theorem ne_nil_of_mem_cut {ns : List Nat} (hpos : ∀ n ∈ ns, 0 < n) {body : CStr}
    (hsum : ns.sum = body.length) : ∀ p ∈ cut ns body, p ≠ [] := by
  induction ns generalizing body with
  | nil => exact fun p hp => absurd hp List.not_mem_nil
  | cons n ns ih =>
      rw [List.sum_cons] at hsum
      have hn := hpos n List.mem_cons_self
      intro p hp
      rcases List.mem_cons.mp hp with rfl | hp
      · apply List.ne_nil_of_length_pos
        rw [List.length_take]
        omega
      · apply ih (fun m hm => hpos m (List.mem_cons_of_mem _ hm)) _ p hp
        rw [List.length_drop]
        omega

theorem length_cut (ns : List Nat) (body : CStr) : (cut ns body).length = ns.length := by
  induction ns generalizing body with
  | nil => rfl
  | cons n ns ih => rw [cut, List.length_cons, List.length_cons, ih]

/-- In two pieces or more, a body of one parameter that has a value loses it. -/
theorem not_readsAsOnePiece_of_two {h : FormHandler} {a : Arrival} (hlen : a.length < h.bufSize)
    (htwo : 1 < a.sizes.length) {p : CStr × Nat} (hp : p ∈ h.params)
    (hroom : p.1.length < a.length) : ¬ ReadsAsOnePiece h a := by
  obtain ⟨hne, hhead, hchars, hsize⟩ := h.params_spec p hp
  obtain ⟨c, name, hname⟩ := List.exists_cons_of_ne_nil hne
  obtain ⟨k, hk⟩ : ∃ k, a.length - p.1.length = k + 1 := ⟨a.length - p.1.length - 1, by omega⟩
  -- the parameter with a value of ones
  have hbody : Urlencoded (p.1 ++ List.replicate (k + 1) '1') := by
    intro d hd
    rcases List.mem_append.mp hd with hd | hd
    · exact List.all_eq_true.mp hchars d hd
    · rw [List.eq_of_mem_replicate hd]
      decide
  have ha : a.length = (p.1 ++ List.replicate (k + 1) '1').length := by
    rw [List.length_append, List.length_replicate]
    omega
  intro hreads
  have hread := hreads _ hbody ha
  rw [h.read_arriving hbody ha hlen, h.read_onePiece hbody (ha ▸ hlen)] at hread
  have hvalues := List.map_inj_left.mp (Option.some.inj hread) p hp
  have hpieces : ¬ p.1 <:+: overAll (cut a.sizes (p.1 ++ List.replicate (k + 1) '1')) [] := by
    rw [hname]
    apply not_infix_overAll _ (flatten_cut (hname ▸ ha))
    · apply ne_nil_of_mem_cut _ (hname ▸ ha)
      intro n hn
      exact a.pos n (by simpa [Arrival.sizes] using hn)
    · rw [length_cut]
      exact htwo
    · intro hmem
      apply hhead
      rw [hname, List.eq_of_mem_replicate hmem]
      rfl
  rw [extractParamValue_of_absent hpieces,
    extractParamValue_of_fieldText (fieldText_single p.1 (by simp))] at hvalues
  obtain ⟨s, hs⟩ : ∃ s, p.2 - 1 = s + 1 := ⟨p.2 - 2, by omega⟩
  rw [hs, List.replicate_succ, List.take_succ_cons] at hvalues
  exact absurd hvalues.symm (List.cons_ne_nil _ _)

/-- **How a form may arrive**: with a body shorter than the buffer, every body reads as in
    one piece exactly if it comes in one piece, time-outs aside, or has no room for a value
    of any parameter. -/
theorem readsAsOnePiece_iff (h : FormHandler) (a : Arrival) (hlen : a.length < h.bufSize) :
    ReadsAsOnePiece h a ↔
      a.sizes.length ≤ 1 ∨ ∀ p ∈ h.params, a.length ≤ p.1.length := by
  constructor
  · intro hreads
    by_contra hnot
    rw [not_or, Nat.not_le] at hnot
    obtain ⟨htwo, hlong⟩ := hnot
    apply hlong
    intro p hp
    by_contra hroom
    exact not_readsAsOnePiece_of_two hlen htwo hp (Nat.lt_of_not_le hroom) hreads
  · intro hcond body hbody ha
    rw [h.read_arriving hbody ha hlen, h.read_onePiece hbody (ha ▸ hlen)]
    rcases hcond with hone | hshort
    · rw [overAll_cut_of_le_one ha hone]
    · congr 1
      apply List.map_congr_left
      intro p hp
      have hle := length_overAll_le (cut a.sizes body) []
      rw [flatten_cut ha, List.length_nil, Nat.zero_add, ← ha] at hle
      rw [extractParamValue_short (Nat.le_trans hle (hshort p hp)),
        extractParamValue_short (ha ▸ hshort p hp)]

/-- A reset form that arrives in one piece between two time-outs. -/
theorem readsAsOnePiece_iff_timeout :
    ReadsAsOnePiece .resetPost (.ofSteps [none, some 8, none] (by decide)) :=
  (readsAsOnePiece_iff .resetPost (.ofSteps [none, some 8, none] (by decide)) (by decide)).mpr
    (.inl (by decide))

/-- `action=9` in two pieces: the second is written over the name. -/
theorem not_readsAsOnePiece :
    ¬ ∀ (h : FormHandler) (a : Arrival), a.length < h.bufSize → ReadsAsOnePiece h a := by
  intro h
  have hreads := h .resetPost (.ofSteps [some 7, some 1] (by decide)) (by decide)
    "action=9".toList (by decide) (by decide)
  exact absurd hreads (by decide +kernel)

end Web
