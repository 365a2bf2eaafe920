import RelayBoard.Framework.Batch
import RelayBoard.Web.SettingUpdate

/-! # The Order of a Settings Batch

  The loop over `data` in `set_setting_value_post_handler`, as a batch of commands
  on the records of NVS: with distinct keys it does the same in every order.
-/

open CString Settings

namespace Web

variable {Blob : Type}

/-! ### The Loop as a Batch -/

/-- A member of `data` is applied; the reply is its error and its details. `ok` says
    which keys can be written. -/
def applyMember (ok : CStr → Bool) (print : Print) (nvs : Nvs.Store Blob)
    (setting : CStr × Json) : (EspErr × CStr × Json) × Nvs.Store Blob :=
  let r := applySetting (ok setting.1) nvs (some setting.1) (some setting.2)
    SettingUpdateMsg.zero
  ((r.1, setting.1, settingDetails print setting.2 r.1 r.2.1), r.2.2)

/-- The outcomes of the calls for these members in this order. -/
def outcomesFor (ok : CStr → Bool) (print : Print) (members : List (CStr × Json)) :
    SettingOutcomes where
  writeOk := fun i => (members[i]?).all fun setting => ok setting.1
  print := print

/-- The record of a member. -/
def recordKey (setting : CStr × Json) : CStr × CStr := (sNamespace, setting.1)

/-- A record of NVS. -/
def record (nvs : Nvs.Store Blob) (k : CStr × CStr) : Option (Nvs.Value Blob) := nvs k.1 k.2

/-- A member works on its own record only. -/
theorem applyMember_local (ok : CStr → Bool) (print : Print) :
    Batch.Local (applyMember ok print) recordKey (@record Blob) where
  reply := by
    intro nvs nvs' setting h
    have hrecord : nvs sNamespace setting.1 = nvs' sNamespace setting.1 := h
    obtain ⟨herr, hmsg, -⟩ := applySetting_congr hrecord (ok setting.1) (some setting.2) .zero
    unfold applyMember
    dsimp only
    rw [herr, hmsg]
  own := by
    intro nvs nvs' setting h
    have hrecord : nvs sNamespace setting.1 = nvs' sNamespace setting.1 := h
    exact (applySetting_congr hrecord (ok setting.1) (some setting.2) .zero).2.2
  frame := by
    intro nvs setting k hne
    have hother : ¬ (k.1 = sNamespace ∧ k.2 = setting.1) :=
      fun h => hne (Prod.ext h.1 h.2)
    exact applySetting_frame (ok setting.1) nvs setting.1 (some setting.2) .zero hother

/-- **Loop lemma**: the loop has applied the members as a batch, and counted the replies. -/
theorem foldl_applyChild {o : SettingOutcomes} {ok : CStr → Bool}
    (members : List (CStr × Json)) (acc : Applied Blob)
    (hok : ∀ i setting, members[i]? = some setting →
      o.writeOk (acc.totalCount + i) = ok setting.1) :
    let r := Batch.run (applyMember ok o.print) acc.nvs members
    (members.map fun m => (some m.1, m.2)).foldl (applyChild o) acc =
      { nvs := r.2
        respDetails := acc.respDetails ++ r.1.map Prod.snd
        successCount := acc.successCount + r.1.countP fun reply => reply.1 = .ok
        failureCount := acc.failureCount + r.1.countP fun reply => ¬ reply.1 = .ok
        totalCount := acc.totalCount + members.length } := by
  induction members generalizing acc with
  | nil => simp
  | cons setting members ih =>
      have hhead : o.writeOk acc.totalCount = ok setting.1 := hok 0 setting rfl
      have htail : ∀ i s, members[i]? = some s →
          o.writeOk ((applyChild o acc (some setting.1, setting.2)).totalCount + i) = ok s.1 := by
        intro i s hs
        show o.writeOk (acc.totalCount + 1 + i) = ok s.1
        rw [Nat.add_right_comm]
        exact hok (i + 1) s hs
      rw [List.map_cons, List.foldl_cons, ih _ htail, Batch.run_cons]
      unfold applyChild applyMember
      dsimp only
      rw [hhead]
      by_cases herr : (applySetting (ok setting.1) acc.nvs (some setting.1) (some setting.2)
          SettingUpdateMsg.zero).1 = .ok
      · simp [herr, Nat.add_assoc, Nat.add_comm 1]
      · simp [herr, Nat.add_assoc, Nat.add_comm 1]

/-- The loop over the members of an object, from its start. -/
theorem applyChildren_object (ok : CStr → Bool) (print : Print) (nvs : Nvs.Store Blob)
    (members : List (CStr × Json)) :
    let r := Batch.run (applyMember ok print) nvs members
    applyChildren (outcomesFor ok print members) nvs (.object members) =
      { nvs := r.2
        respDetails := r.1.map Prod.snd
        successCount := r.1.countP fun reply => reply.1 = .ok
        failureCount := r.1.countP fun reply => ¬ reply.1 = .ok
        totalCount := members.length } := by
  have hok : ∀ i setting, members[i]? = some setting →
      (outcomesFor ok print members).writeOk (0 + i) = ok setting.1 := by
    intro i setting hget
    show (members[0 + i]?).all _ = _
    rw [Nat.zero_add, hget]
    rfl
  have hloop := foldl_applyChild members ⟨nvs, [], 0, 0, 0⟩ hok
  simp only [List.nil_append, Nat.zero_add] at hloop
  exact hloop

/-- The details are those of the members, each under its key. -/
theorem keys_details (ok : CStr → Bool) (print : Print) (nvs : Nvs.Store Blob)
    (members : List (CStr × Json)) :
    ((Batch.run (applyMember ok print) nvs members).1.map Prod.snd).map Prod.fst =
      members.map Prod.fst := by
  induction members generalizing nvs with
  | nil => rfl
  | cons setting members ih =>
      rw [Batch.run_cons, List.map_cons, List.map_cons, ih]
      rfl

theorem nodup_recordKeys {members : List (CStr × Json)} (h : (members.map Prod.fst).Nodup) :
    (members.map recordKey).Nodup := by
  have hkeys : members.map recordKey = (members.map Prod.fst).map (Prod.mk sNamespace) := by
    rw [List.map_map]
    rfl
  rw [hkeys]
  exact h.map fun _ _ heq => (Prod.mk.inj heq).2

/-! ### Every Order -/

/-- **A batch does not depend on the order of its members**: with distinct keys, and
    writes that succeed or fail with their keys, any two orders end with the same NVS,
    the same details under each key and the same counters. -/
theorem applyChildren_perm (ok : CStr → Bool) (print : Print) (nvs : Nvs.Store Blob)
    {members members' : List (CStr × Json)} (hkeys : (members.map Prod.fst).Nodup)
    (hperm : members.Perm members') :
    let acc := applyChildren (outcomesFor ok print members) nvs (.object members)
    let acc' := applyChildren (outcomesFor ok print members') nvs (.object members')
    acc.nvs = acc'.nvs ∧
      acc.respDetails.Perm acc'.respDetails ∧
      acc.respDetails.map Prod.fst = members.map Prod.fst ∧
      acc.successCount = acc'.successCount ∧ acc.failureCount = acc'.failureCount ∧
      acc.totalCount = acc'.totalCount ∧
      acc.successCount + acc.failureCount = acc.totalCount ∧
      acc.totalCount = members.length := by
  obtain ⟨hreplies, hcells⟩ := (applyMember_local ok print).run_perm nvs
    (nodup_recordKeys hkeys) hperm
  intro acc acc'
  have hacc : acc = _ := applyChildren_object ok print nvs members
  have hacc' : acc' = _ := applyChildren_object ok print nvs members'
  rw [hacc, hacc']
  refine ⟨?_, hreplies.map Prod.snd, keys_details ok print nvs members, hreplies.countP_eq _,
    hreplies.countP_eq _, hperm.length_eq, ?_, rfl⟩
  · funext ns k
    exact hcells (ns, k)
  · show List.countP _ _ + List.countP _ _ = members.length
    rw [← Batch.length_run (applyMember ok print) nvs members,
      List.length_eq_countP_add_countP (fun reply => decide (reply.1 = EspErr.ok))]
    simp only [decide_not, decide_eq_true_eq]

/-- A mode out of range between two settings that are accepted. -/
theorem applyChildren_perm_three :
    let members : List (CStr × Json) := [(sKeyMqttPort, .number 8883),
      (sKeyMqttConnect, .number 7), (sKeyMqttUser, .string "u".toList)]
    let acc := applyChildren (outcomesFor (fun _ => true) (fun _ => none) members)
      identityStore (.object members)
    let acc' := applyChildren (outcomesFor (fun _ => true) (fun _ => none) members.reverse)
      identityStore (.object members.reverse)
    acc.nvs = acc'.nvs ∧ acc'.successCount = 2 ∧ acc'.failureCount = 1 := by
  intro members acc acc'
  have hperm := applyChildren_perm (fun _ => true) (fun _ => none) identityStore
    (show (members.map Prod.fst).Nodup by decide) (List.reverse_perm members).symm
  exact ⟨hperm.1, by decide +kernel, by decide +kernel⟩

end Web
