import RelayBoard.Relay.Unit

/-! # Command Topics

  `mqtt_relay_subscribe` builds the command topic of an actuator from the
  MQTT prefix; `resolve_key_from_topic` reads the unit key back from a
  topic by its position among the `/`-separated tokens. This file states
  for which prefixes the second function inverts the first.
-/

open CString Settings Relay

namespace MqttTopic

/-! ### The Encoder -/

/-- `HA_DEVICE_FAMILY`. -/
def haDeviceFamily : CStr := "switch".toList

/-- The command topic of `mqtt_relay_subscribe`, from the stored prefix and
    device id; `none` when the unit has no key. -/
def commandTopic (mqttPrefix deviceId : CStr) (relay : RelayUnit) : Option CStr :=
  match getUnitNvsKey relay with
  | none => none
  | some relayKey =>
      let topicLen := mqttPrefix.length + deviceId.length + relayKey.length +
        haDeviceFamily.length + "/set".length + 4
      some (snprintf topicLen
        (mqttPrefix ++ '/' :: (deviceId ++ '/' :: (relayKey ++ '/' ::
          (haDeviceFamily ++ "/set".toList)))))

/-! ### The Decoder -/

/-- The counting loop of `str_split`: number of delimiters and position of
    the last one, `none` standing for a null `last_comma`. -/
def countDelims (delim : Char) : CStr → Nat → Nat × Option Nat → Nat × Option Nat
  | [], _, acc => acc
  | c :: s, pos, (count, lastComma) =>
      countDelims delim s (pos + 1)
        (if delim = c then (count + 1, some pos) else (count, lastComma))

/-- `last_comma < a_str + strlen(a_str) - 1`; a null pointer is below it. -/
def hasTrailingToken (lastComma : Option Nat) (len : Nat) : Bool :=
  match lastComma with
  | none => true
  | some pos => pos + 1 < len

/-- The storing loop of `str_split`; `none` when an assertion fails. -/
def storeTokens (count : Nat) : Nat → List CStr → Option Nat
  | idx, [] => if idx + 1 = count then some idx else none
  | idx, _ :: tokens => if idx < count then storeTokens count (idx + 1) tokens else none

/-- `str_split`: the tokens and the element count. -/
def strSplit (s : CStr) (delim : Char) : Option (List CStr × Nat) :=
  let (delims, lastComma) := countDelims delim s 0 (0, none)
  let count := delims + (hasTrailingToken lastComma s.length).toNat + 1
  let tokens := strtokAll s delim
  match storeTokens count 0 tokens with
  | none => none
  | some _ => some (tokens, count)

/-- `get_element_from_path`: `none` is a failed assertion, `some none` is `NULL`. -/
def getElementFromPath (path : CStr) (index : Int) : Option (Option CStr) :=
  if index < 0 then some none
  else
    match strSplit path '/' with
    | none => none
    | some (tokens, count) =>
        if count ≤ index.toNat then some none
        else
          match tokens[index.toNat]? with
          | none => some none
          | some token => if token = [] then some none else some (some token)

/-- `resolve_key_from_topic`. -/
def resolveKeyFromTopic (topic : CStr) : Option (Option CStr) := getElementFromPath topic 2

/-! ### Splitting -/

theorem countDelims_append (delim : Char) (s t : CStr) (pos : Nat) (acc : Nat × Option Nat) :
    countDelims delim (s ++ t) pos acc =
      countDelims delim t (pos + s.length) (countDelims delim s pos acc) := by
  induction s generalizing pos acc with
  | nil => rfl
  | cons c s ih =>
      simp only [List.cons_append, countDelims, List.length_cons]
      rw [ih, Nat.add_assoc, Nat.add_comm 1]

theorem countDelims_not_mem {delim : Char} {s : CStr} (h : delim ∉ s) (pos : Nat)
    (acc : Nat × Option Nat) : countDelims delim s pos acc = acc := by
  induction s generalizing pos acc with
  | nil => rfl
  | cons c s ih =>
      rw [List.mem_cons, not_or] at h
      rw [countDelims, if_neg h.1]
      exact ih h.2 (pos + 1) acc

theorem countDelims_fst (delim : Char) (s : CStr) (pos : Nat) (acc : Nat × Option Nat) :
    (countDelims delim s pos acc).1 = acc.1 + s.count delim := by
  induction s generalizing pos acc with
  | nil => rfl
  | cons c s ih =>
      by_cases h : delim = c
      · rw [countDelims, if_pos h, ih, h, List.count_cons_self]
        omega
      · rw [countDelims, if_neg h, ih, List.count_cons_of_ne (Ne.symm h)]

/-- Both assertions hold exactly when the count leaves room for the tokens and
    the terminating null pointer. -/
theorem storeTokens_eq_some_iff (count idx : Nat) (tokens : List CStr) :
    (∃ n, storeTokens count idx tokens = some n) ↔ idx + tokens.length + 1 = count := by
  induction tokens generalizing idx with
  | nil =>
      by_cases h : idx + 1 = count <;> simp [storeTokens, h]
  | cons token tokens ih =>
      rw [List.length_cons]
      by_cases h : idx < count
      · rw [storeTokens, if_pos h, ih]
        omega
      · rw [storeTokens, if_neg h]
        constructor
        · rintro ⟨_, hn⟩
          cases hn
        · intro heq
          omega

/-- On a string whose last piece is not empty, `str_split` counts one token
    for each piece. -/
theorem strSplit_of_trailing {s w : CStr} {delim : Char} (hne : w ≠ []) (hw : delim ∉ w) :
    strSplit (s ++ delim :: w) delim =
      if (strtokAll s delim).length = s.count delim + 1 then
        some (strtokAll s delim ++ [w], s.count delim + 3)
      else none := by
  have hcount : countDelims delim (s ++ delim :: w) 0 (0, none) =
      (s.count delim + 1, some s.length) := by
    rw [countDelims_append, countDelims, if_pos rfl, countDelims_not_mem hw, countDelims_fst]
    simp
  -- the last word follows the last delimiter, so it is counted as well
  have htrail : hasTrailingToken (some s.length) (s ++ delim :: w).length = true := by
    have := List.length_pos_iff.mpr hne
    simp [hasTrailingToken]
    omega
  have htok : strtokAll (s ++ delim :: w) delim = strtokAll s delim ++ [w] := by
    rw [strtokAll_append_cons, strtokAll_word hne hw]
  unfold strSplit
  rw [hcount, htok]
  simp only [htrail, Bool.toNat_true]
  have hstore := storeTokens_eq_some_iff (s.count delim + 1 + 1 + 1) 0
    (strtokAll s delim ++ [w])
  rw [List.length_append, List.length_singleton] at hstore
  -- the assertion compares the stored tokens with the counted ones
  by_cases h : (strtokAll s delim).length = s.count delim + 1
  · obtain ⟨n, hn⟩ := hstore.mpr (by omega)
    rw [if_pos h, hn]
  · cases hn : storeTokens (s.count delim + 1 + 1 + 1) 0 (strtokAll s delim ++ [w]) with
    | none => rw [if_neg h]
    | some n =>
        have := hstore.mp ⟨n, hn⟩
        omega

/-- Where `str_split` does not abort, an element is the token at its index. -/
theorem getElementFromPath_eq_some_iff {path w : CStr} {tokens : List CStr} {count : Nat}
    (hsplit : strSplit path '/' = some (tokens, count)) {index : Nat} (hindex : index < count)
    (hw : w ≠ []) :
    getElementFromPath path index = some (some w) ↔ tokens[index]? = some w := by
  have hneg : ¬ (index : Int) < 0 := by omega
  simp only [getElementFromPath, if_neg hneg, hsplit, Int.toNat_natCast]
  rw [if_neg (by omega)]
  cases tokens[index]? with
  | none => simp
  | some token =>
      by_cases htoken : token = []
      · simp [htoken, Ne.symm hw]
      · simp [htoken]

theorem getElementFromPath_of_abort {path : CStr} (hsplit : strSplit path '/' = none)
    (index : Nat) : getElementFromPath path index = none := by
  have hneg : ¬ (index : Int) < 0 := by omega
  simp only [getElementFromPath, if_neg hneg, hsplit]

/-! ### Topics of Actuators -/

theorem slash_not_mem_chKey (n : Nat) : '/' ∉ chKey n :=
  not_mem_append_decimal (by decide) (by decide) n

theorem underscore_mem_chKey (n : Nat) : '_' ∈ chKey n :=
  List.mem_append_left _ (by decide)

theorem chKey_ne_nil (n : Nat) : chKey n ≠ [] :=
  List.ne_nil_of_mem (underscore_mem_chKey n)

/-- The topic of an actuator, spelled out: the buffer is exactly large enough. -/
theorem commandTopic_eq {relay : RelayUnit} {key : CStr}
    (hkey : getUnitNvsKey relay = some key) (mqttPrefix deviceId : CStr) :
    commandTopic mqttPrefix deviceId relay =
      some ((mqttPrefix ++ '/' :: (deviceId ++ '/' :: (key ++ '/' :: haDeviceFamily))) ++
        '/' :: "set".toList) := by
  simp only [commandTopic, hkey]
  have hfam : haDeviceFamily.length = 6 := by decide
  have hset : "/set".length = 4 := by decide
  rw [snprintf_of_lt]
  · simp
  · simp [hfam, hset]
    omega

/-- Splitting the topic gives the tokens of the prefix, the device id, the key
    and the fixed tail, unless an assertion fails. -/
theorem strSplit_topic (mqttPrefix : CStr) {deviceId key : CStr}
    (hid : deviceId ≠ []) (hidSlash : '/' ∉ deviceId) (hkey : key ≠ [])
    (hkeySlash : '/' ∉ key) :
    strSplit ((mqttPrefix ++ '/' :: (deviceId ++ '/' :: (key ++ '/' :: haDeviceFamily))) ++
        '/' :: "set".toList) '/' =
      if [] ∉ mqttPrefix.splitOn '/' then
        some (mqttPrefix.splitOn '/' ++ [deviceId, key, haDeviceFamily, "set".toList],
          mqttPrefix.count '/' + 6)
      else none := by
  -- identifier, key and family are words, so only the prefix can split
  have htok : strtokAll (mqttPrefix ++ '/' :: (deviceId ++ '/' :: (key ++ '/' ::
      haDeviceFamily))) '/' = strtokAll mqttPrefix '/' ++ [deviceId, key, haDeviceFamily] := by
    rw [strtokAll_append_cons, strtokAll_append_cons, strtokAll_append_cons,
      strtokAll_word hid hidSlash, strtokAll_word hkey hkeySlash,
      strtokAll_word (w := haDeviceFamily) (by decide) (by decide)]
    rfl
  have hcount : (mqttPrefix ++ '/' :: (deviceId ++ '/' :: (key ++ '/' ::
      haDeviceFamily))).count '/' = mqttPrefix.count '/' + 3 := by
    have hfam : haDeviceFamily.count '/' = 0 := by decide
    simp [List.count_eq_zero_of_not_mem hidSlash, List.count_eq_zero_of_not_mem hkeySlash, hfam]
  rw [strSplit_of_trailing (w := "set".toList) (by decide) (by decide), htok, hcount,
    List.length_append]
  -- an empty word in the prefix makes the tokens too few
  by_cases h : [] ∉ mqttPrefix.splitOn '/'
  · have hlen := (length_strtokAll_eq_iff mqttPrefix '/').mpr h
    rw [if_pos h, if_pos (by simp [hlen]), strtokAll_eq_splitOn h]
    simp
  · have hlen := mt (length_strtokAll_eq_iff mqttPrefix '/').mp h
    rw [if_neg h, if_neg]
    simpa using hlen

/-! ### Main Theorem -/

/-- The topic of the actuator decodes to its key. -/
def CommandTopicDecodes (mqttPrefix deviceId : CStr) (relay : RelayUnit) : Prop :=
  ∃ topic key, commandTopic mqttPrefix deviceId relay = some topic ∧
    getUnitNvsKey relay = some key ∧ resolveKeyFromTopic topic = some (some key)

/-- No `/`-separated segment of the prefix is empty, and the prefix is one
    segment or has the unit's own key as its third. -/
def PrefixFits (mqttPrefix : CStr) (relay : RelayUnit) : Prop :=
  [] ∉ mqttPrefix.splitOn '/' ∧
    ('/' ∉ mqttPrefix ∨ (mqttPrefix.splitOn '/')[2]? = getUnitNvsKey relay)

theorem commandTopicDecodes_iff_of_key {mqttPrefix deviceId key : CStr} {relay : RelayUnit}
    (hkey : getUnitNvsKey relay = some key) :
    CommandTopicDecodes mqttPrefix deviceId relay ↔
      resolveKeyFromTopic ((mqttPrefix ++ '/' :: (deviceId ++ '/' :: (key ++ '/' ::
        haDeviceFamily))) ++ '/' :: "set".toList) = some (some key) := by
  unfold CommandTopicDecodes
  rw [commandTopic_eq hkey, hkey]
  constructor
  · rintro ⟨topic, key', htopic, hkey', hres⟩
    rw [← Option.some.inj htopic, ← Option.some.inj hkey'] at hres
    exact hres
  · intro hres
    exact ⟨_, _, rfl, rfl, hres⟩

/-- The third of the tokens behind the segments of a prefix. -/
theorem third_token_eq_iff {segs : List CStr} {deviceId key : CStr} {tail : List CStr}
    (hsegs : segs ≠ []) (hne : deviceId ≠ key) :
    (segs ++ deviceId :: key :: tail)[2]? = some key ↔
      segs.length = 1 ∨ segs[2]? = some key := by
  match segs with
  | [] => exact absurd rfl hsegs
  | [_] => simp
  | [_, _] => simp [hne]
  | _ :: _ :: c :: _ => simp

/-- `resolve_key_from_topic` inverts `mqtt_relay_subscribe` exactly on the
    prefixes that fit. -/
theorem commandTopicDecodes_iff (mqttPrefix deviceId : CStr) (relay : RelayUnit)
    (hid : deviceId.length = deviceIdLength) (halnum : ∀ c ∈ deviceId, c.isAlphanum = true)
    (htype : relay.type = .actuator)
    (hch : channelCountMin ≤ relay.channel ∧ relay.channel ≤ channelCountMax) :
    CommandTopicDecodes mqttPrefix deviceId relay ↔ PrefixFits mqttPrefix relay := by
  obtain ⟨key, hkey⟩ : ∃ key, getUnitNvsKey relay = some key := by
    simp only [getUnitNvsKey, htype, getRelayNvsKey]
    exact ⟨_, if_neg (by omega)⟩
  obtain ⟨n, hn⟩ : ∃ n, key = chKey n := by
    simp only [getUnitNvsKey, htype] at hkey
    obtain ⟨n, _, _, heq⟩ := exists_of_getRelayNvsKey hkey
    exact ⟨n, heq⟩
  -- a device identifier has no underscore, a relay key has one
  have hne : deviceId ≠ key := by
    rintro rfl
    exact absurd (halnum '_' (hn ▸ underscore_mem_chKey n)) (by decide)
  have hidNil : deviceId ≠ [] := List.ne_nil_of_length_pos (by rw [hid]; decide)
  have hidSlash : '/' ∉ deviceId := fun h => absurd (halnum '/' h) (by decide)
  have hkeyNil : key ≠ [] := hn ▸ chKey_ne_nil n
  have hsplit := strSplit_topic mqttPrefix hidNil hidSlash hkeyNil
    (hn ▸ slash_not_mem_chKey n)
  -- the key is the third token exactly when the prefix is one word
  have hone : (mqttPrefix.splitOn '/').length = 1 ↔ '/' ∉ mqttPrefix := by
    rw [length_splitOn, ← List.count_eq_zero]
    omega
  rw [commandTopicDecodes_iff_of_key hkey, PrefixFits, hkey]
  by_cases h : [] ∉ mqttPrefix.splitOn '/'
  · rw [if_pos h] at hsplit
    rw [resolveKeyFromTopic]
    rw [show (2 : Int) = (2 : Nat) from rfl,
      getElementFromPath_eq_some_iff hsplit (by omega) hkeyNil,
      third_token_eq_iff (List.splitOn_ne_nil '/' mqttPrefix) hne, hone]
    simp [h]
  · rw [if_neg h] at hsplit
    have habort := getElementFromPath_of_abort hsplit 2
    rw [resolveKeyFromTopic, show (2 : Int) = (2 : Nat) from rfl, habort]
    simp [h]

theorem isAlphanum_exampleId : ∀ c ∈ "DCDA0C7E08A4".toList, c.isAlphanum = true :=
  List.all_eq_true.mp (by decide)

/-- The default prefix fits every actuator. -/
theorem commandTopicDecodes_iff_default :
    CommandTopicDecodes sDefaultMqttPrefix "DCDA0C7E08A4".toList
        { RelayUnit.zero with channel := 3 } ↔
      PrefixFits sDefaultMqttPrefix { RelayUnit.zero with channel := 3 } :=
  commandTopicDecodes_iff _ _ _ (by decide) isAlphanum_exampleId rfl (by decide)

/-- A prefix of two levels shifts the key: the third token is the device id. -/
theorem not_commandTopicDecodes :
    ¬ ∀ (mqttPrefix deviceId : CStr) (relay : RelayUnit),
      mqttPrefix.length < mqttPrefixLength → deviceId.length = deviceIdLength →
      (∀ c ∈ deviceId, c.isAlphanum = true) → relay.type = .actuator →
      channelCountMin ≤ relay.channel ∧ relay.channel ≤ channelCountMax →
      CommandTopicDecodes mqttPrefix deviceId relay := by
  intro h
  obtain ⟨topic, key, htopic, hkey, hres⟩ := h "home/relays".toList "DCDA0C7E08A4".toList
    { RelayUnit.zero with channel := 0 } (by decide) (by decide) isAlphanum_exampleId rfl
    (by decide)
  have hkey' : key = "relay_ch_0".toList := Option.some.inj (hkey.symm.trans (by decide))
  have htopic' : topic = "home/relays/DCDA0C7E08A4/relay_ch_0/switch/set".toList :=
    Option.some.inj (htopic.symm.trans (by decide))
  rw [hkey', htopic'] at hres
  exact absurd hres (by decide)

end MqttTopic
