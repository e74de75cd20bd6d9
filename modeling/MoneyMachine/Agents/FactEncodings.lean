import MoneyMachine.Agents.MerchandisingContract

/-!
# FactEncodings — what an encoded fact says

The contract writes a configuration as one text, and the templates read it again.  Pipes cannot occur in
the parts, so the parts come back; what is left is whether a part can look like the word for absence.

* `supportClause_encode`, `giftClause_encode` : a support or gift fact is read back;
* `dashboardOutputs_join`                     : the outputs of a dashboard are read back;
* `encodings_faithful`                        : the encodings determine what was encoded.
-/

namespace MoneyMachine
namespace Agents

open MoneyMachine.Domain

theorem TrimmedText.ext_chars {a b : TrimmedText} (h : a.chars = b.chars) : a = b := by
  rcases a with ⟨chars, hnonempty, htrimmed⟩
  rcases b with ⟨chars', hnonempty', htrimmed'⟩
  dsimp only at h
  subst h
  rfl

/-! ## Support and gifts -/

theorem offered_encode (label : Text) {rest : Text} (h : rest ≠ []) :
    offered (lit "offered|" ++ rest) label = .ok rest := by
  have hmarker : (lit "offered|").isPrefixOf (lit "offered|" ++ rest) = true :=
    List.isPrefixOf_iff_prefix.mpr (List.prefix_append _ _)
  have hrest : lit "offered|" ++ rest ≠ lit "offered|" := by
    intro heq
    exact h (List.append_right_eq_self.mp heq)
  simp only [offered, hmarker, hrest, Bool.true_eq_false, or_self, if_false]
  rw [List.drop_left]

/-- No offered value is the word for absence. -/
theorem offered_ne_notOffered (rest : Text) : lit "offered|" ++ rest ≠ lit "not_offered" := by
  intro h
  have hhead := congrArg List.head? h
  exact absurd (Option.some.inj hhead) (by decide)

/-- The support clause of an encoded configuration. -/
theorem supportClause_encode (config : SupportConfig) :
    supportClause (encodeSupport config) =
      .ok (match config.channel with
        | none => lit "Support is not offered."
        | some channel => lit "Support channel: " ++ channel.chars ++ lit ".") := by
  unfold encodeSupport
  cases hchannel : config.channel with
  | none => rfl
  | some channel =>
    have hpipe := config.noPipe channel hchannel
    simp only [supportClause, if_neg (offered_ne_notOffered _),
      offered_encode (lit "support") channel.nonempty, bind, Except.bind, if_neg hpipe]

/-- The parts of an encoded gift. -/
theorem giftParts_encode {unicode : Unicode} (config : FreeGiftConfig unicode) {gift : TrimmedText}
    (hgift : config.name = some gift) :
    giftParts (encodeFreeGift config) = .ok (gift.chars, config.community.map TrimmedText.chars) := by
  have hpipe := config.noPipe gift (Or.inl hgift)
  unfold encodeFreeGift
  rw [hgift]
  cases hcommunity : config.community with
  | none =>
    simp only [giftParts, offered_encode (lit "free gift") gift.nonempty, bind, Except.bind,
      pipeItems, List.splitOn_eq_singleton hpipe, Option.map_none]
  | some community =>
    have hpipe' := config.noPipe community (Or.inr hcommunity)
    have hrest : gift.chars ++ '|' :: community.chars ≠ [] := by simp
    have hregroup : lit "offered|" ++ gift.chars ++ lit "|" ++ community.chars =
        lit "offered|" ++ (gift.chars ++ '|' :: community.chars) := by
      simp [lit]
    have hsplit : (gift.chars ++ '|' :: community.chars).splitOn '|' =
        [gift.chars, community.chars] := by
      rw [List.splitOn_append_cons_self, List.splitOn_eq_singleton hpipe,
        List.splitOn_eq_singleton hpipe']
      rfl
    simp only [hregroup, giftParts, offered_encode (lit "free gift") hrest, bind, Except.bind,
      pipeItems, hsplit, Option.map_some]

theorem encodeFreeGift_ne {unicode : Unicode} (config : FreeGiftConfig unicode) {gift : TrimmedText}
    (hgift : config.name = some gift) : encodeFreeGift config ≠ lit "not_offered" := by
  unfold encodeFreeGift
  rw [hgift]
  cases config.community with
  | none => exact offered_ne_notOffered gift.chars
  | some community =>
    have hregroup : lit "offered|" ++ gift.chars ++ lit "|" ++ community.chars =
        lit "offered|" ++ (gift.chars ++ lit "|" ++ community.chars) := by simp
    dsimp only
    rw [hregroup]
    exact offered_ne_notOffered _

/-- A gift that is not offered has no community. -/
theorem encodeFreeGift_none {unicode : Unicode} {config : FreeGiftConfig unicode}
    (hgift : config.name = none) :
    encodeFreeGift config = lit "not_offered" ∧ config.offered = false ∧ config.community = none := by
  have hoffered : config.offered = false := by
    rw [← config.nameMatchesOffer, hgift]
    rfl
  refine ⟨?_, hoffered, config.communityNeedsOffer hoffered⟩
  rw [encodeFreeGift, hgift]

/-- The gift clause of an encoded configuration. -/
theorem giftClause_encode {unicode : Unicode} (config : FreeGiftConfig unicode) :
    giftClause (encodeFreeGift config) =
      .ok (match config.name, config.community with
        | none, _ => lit "No free gift is configured."
        | some gift, none => lit "Free gift: " ++ gift.chars ++ lit "."
        | some gift, some community => lit "Free gift: " ++ gift.chars ++ lit "." ++
            lit " Free community: " ++ community.chars ++ lit ".") := by
  cases hgift : config.name with
  | none =>
    rw [(encodeFreeGift_none hgift).1]
    rfl
  | some gift =>
    simp only [giftClause, if_neg (encodeFreeGift_ne config hgift), giftParts_encode config hgift,
      bind, Except.bind]
    cases config.community with
    | none => rfl
    | some community => rfl

/-- The name is read from an offered gift only. -/
theorem giftName_encode {unicode : Unicode} (config : FreeGiftConfig unicode) :
    giftName (encodeFreeGift config) =
      match config.name with
      | none => .error (lit "free gift fact is not an offered value")
      | some gift => .ok gift.chars := by
  cases hgift : config.name with
  | none =>
    rw [(encodeFreeGift_none hgift).1]
    rfl
  | some gift => simp only [giftName, giftParts_encode config hgift, bind, Except.bind]

/-- The community is read from a gift that has one only. -/
theorem giftCommunity_encode {unicode : Unicode} (config : FreeGiftConfig unicode) :
    (∃ text, giftCommunity (encodeFreeGift config) = .ok text) ↔ config.community.isSome = true := by
  cases hgift : config.name with
  | none =>
    obtain ⟨hencoded, -, hcommunity⟩ := encodeFreeGift_none hgift
    rw [hencoded, hcommunity]
    constructor
    · rintro ⟨text, htext⟩
      cases htext
    · intro hsome
      cases hsome
  | some gift =>
    simp only [giftCommunity, giftParts_encode config hgift, bind, Except.bind]
    cases config.community with
    | none =>
      constructor
      · rintro ⟨text, htext⟩
        cases htext
      · intro hsome
        cases hsome
    | some community =>
      constructor
      · intro _
        rfl
      · intro _
        exact ⟨community.chars, rfl⟩

/-! ## Dashboards -/

/-- A text that is refused as a list has an empty item. -/
theorem empty_item {encoded : Text} (h : encoded = [] ∨ encoded.head? = some '|' ∨
    encoded.getLast? = some '|' ∨ ['|', '|'] <:+: encoded) : [] ∈ pipeItems encoded := by
  unfold pipeItems
  rcases h with rfl | hhead | hlast | ⟨front, back, rfl⟩
  · simp
  · obtain ⟨rest, rfl⟩ := List.head?_eq_some_iff.mp hhead
    have hself : ('|' :: rest : Text) = [] ++ '|' :: rest := rfl
    rw [hself, List.splitOn_append_cons_self]
    simp
  · obtain ⟨front, rfl⟩ := List.getLast?_eq_some_iff.mp hlast
    rw [List.splitOn_append_cons_self]
    simp
  · have hregroup : front ++ ['|', '|'] ++ back = front ++ '|' :: ([] ++ '|' :: back) := by simp
    rw [hregroup, List.splitOn_append_cons_self, List.splitOn_append_cons_self]
    simp

/-- The outputs of a dashboard are read back. -/
theorem dashboardOutputs_join {outputs : List Text} (hne : outputs ≠ [])
    (hitems : ∀ output ∈ outputs, output ≠ [] ∧ '|' ∉ output) :
    dashboardOutputs (join ['|'] outputs) = .ok outputs := by
  have hsplit : pipeItems (join ['|'] outputs) = outputs :=
    List.splitOn_intercalate '|' (fun output houtput => (hitems output houtput).2) hne
  unfold dashboardOutputs
  rw [if_neg, hsplit]
  intro hrefused
  have hempty := empty_item hrefused
  rw [hsplit] at hempty
  exact (hitems [] hempty).1 rfl

/-- The outputs as texts. -/
def NotificationDashboard.texts (behaviour : NotificationDashboard) : List Text :=
  behaviour.outputs.map TrimmedText.chars

theorem NotificationDashboard.items (behaviour : NotificationDashboard) :
    ∀ output ∈ behaviour.texts, output ≠ [] ∧ '|' ∉ output := by
  intro output houtput
  obtain ⟨text, htext, rfl⟩ := List.mem_map.mp houtput
  exact ⟨text.nonempty, behaviour.noPipe text htext⟩

theorem NotificationDashboard.texts_ne {behaviour : NotificationDashboard}
    (h : behaviour.present = true) : behaviour.texts ≠ [] := by
  intro hnil
  exact behaviour.outputsMatchPresence.mp h (List.map_eq_nil_iff.mp hnil)

theorem NotificationDashboard.ext_texts {a b : NotificationDashboard} (h : a.texts = b.texts) :
    a = b := by
  have houtputs : a.outputs = b.outputs := by
    apply List.map_injective_iff.mpr _ h
    intro x y hxy
    exact TrimmedText.ext_chars hxy
  have hpresent : a.present = b.present := by
    rw [Bool.eq_iff_iff, a.outputsMatchPresence, b.outputsMatchPresence, houtputs]
  rcases a with ⟨present, outputs, hmatch, hpipe⟩
  rcases b with ⟨present', outputs', hmatch', hpipe'⟩
  dsimp only at houtputs hpresent
  subst houtputs
  subst hpresent
  rfl

/-- The word for absence is one item. -/
theorem join_eq_absent {behaviour : NotificationDashboard} (h : behaviour.present = true)
    (hjoin : join ['|'] behaviour.texts = lit "absent") : behaviour.texts = [lit "absent"] := by
  have hread := dashboardOutputs_join (NotificationDashboard.texts_ne h) behaviour.items
  rw [hjoin] at hread
  have habsent : dashboardOutputs (lit "absent") = .ok [lit "absent"] :=
    @dashboardOutputs_join [lit "absent"] (by decide) (by decide)
  rw [habsent] at hread
  exact (Except.ok.inj hread).symm

theorem encodeDashboard_present {behaviour : NotificationDashboard} (h : behaviour.present = true) :
    encodeDashboard behaviour = join ['|'] behaviour.texts :=
  if_pos h

theorem encodeDashboard_absent {behaviour : NotificationDashboard} (h : behaviour.present = false) :
    encodeDashboard behaviour = lit "absent" ∧ behaviour.texts = [] := by
  refine ⟨if_neg (by simp [h]), ?_⟩
  by_contra hne
  have houtputs : behaviour.outputs ≠ [] := by
    intro hnil
    apply hne
    rw [NotificationDashboard.texts, hnil]
    rfl
  rw [behaviour.outputsMatchPresence.mpr houtputs] at h
  cases h

section Dashboards

variable (behaviour : NotificationDashboard)

/-- A dashboard that is not the word for absence is written as absent only when it is. -/
theorem encodeDashboard_eq_absent (hword : behaviour.texts ≠ [lit "absent"]) :
    encodeDashboard behaviour = lit "absent" ↔ behaviour.present = false := by
  constructor
  · intro h
    cases hpresent : behaviour.present with
    | false => rfl
    | true =>
      rw [encodeDashboard_present hpresent] at h
      exact absurd (join_eq_absent hpresent h) hword
  · intro h
    exact (encodeDashboard_absent h).1

/-- A sentence about a dashboard says the outputs, or that there are none. -/
theorem outputs_encode (hword : behaviour.texts ≠ [lit "absent"]) (absence : Text)
    (sentence : List Text → Text) :
    (if encodeDashboard behaviour = lit "absent" then (.ok absence : Rendered)
      else do
        let outputs ← dashboardOutputs (encodeDashboard behaviour)
        .ok (sentence outputs)) =
      .ok (if behaviour.present then sentence behaviour.texts else absence) := by
  cases hpresent : behaviour.present with
  | false =>
    rw [if_pos (encodeDashboard_absent hpresent).1]
    rfl
  | true =>
    have hne : encodeDashboard behaviour ≠ lit "absent" := by
      rw [ne_eq, encodeDashboard_eq_absent behaviour hword, hpresent]
      decide
    rw [if_neg hne, encodeDashboard_present hpresent,
      dashboardOutputs_join (NotificationDashboard.texts_ne hpresent) behaviour.items]
    rfl

theorem dashboardSentence_encode (hword : behaviour.texts ≠ [lit "absent"]) :
    dashboardSentence (encodeDashboard behaviour) =
      .ok (if behaviour.present then
        lit "Notification dashboard: " ++ join (lit ", ") behaviour.texts ++ lit "."
      else lit "Notification dashboard is not in this build.") :=
  outputs_encode behaviour hword _
    (fun outputs => lit "Notification dashboard: " ++ join (lit ", ") outputs ++ lit ".")

theorem widgetSentence_encode (hword : behaviour.texts ≠ [lit "absent"]) :
    widgetSentence (encodeDashboard behaviour) =
      .ok (if behaviour.present then lit "Widgets: " ++ join (lit ", ") behaviour.texts ++ lit "."
      else lit "Widgets are not in this build.") :=
  outputs_encode behaviour hword _
    (fun outputs => lit "Widgets: " ++ join (lit ", ") outputs ++ lit ".")

theorem captionOutputs_encode (hword : behaviour.texts ≠ [lit "absent"]) :
    captionOutputs (encodeDashboard behaviour) =
      .ok (if behaviour.present then join (lit ", ") behaviour.texts
      else lit "not in this build") :=
  outputs_encode behaviour hword _ (fun outputs => join (lit ", ") outputs)

end Dashboards

/-! ## Faithful encodings -/

/-- A caption of several outputs has a comma. -/
theorem join_eq_caption {outputs : List Text} (h : outputs ≠ [])
    (hjoin : join (lit ", ") outputs = lit "not in this build") :
    outputs = [lit "not in this build"] := by
  cases outputs with
  | nil => exact absurd rfl h
  | cons first rest =>
    cases rest with
    | nil =>
      rw [join, List.intercalate_singleton] at hjoin
      rw [hjoin]
    | cons next more =>
      have hcomma : ',' ∈ lit "not in this build" := by
        rw [← hjoin, join, List.intercalate_cons_of_ne_nil (List.cons_ne_nil next more)]
        simp [lit]
      exact absurd hcomma (by decide)

/-- The encodings determine what was encoded, and what is rendered from them states absence only where
there is nothing. -/
structure EncodingsFaithful (unicode : Unicode) : Prop where
  support : ∀ a b : SupportConfig, encodeSupport a = encodeSupport b → a = b
  freeGift : ∀ a b : FreeGiftConfig unicode, encodeFreeGift a = encodeFreeGift b → a = b
  dashboard : ∀ a b : NotificationDashboard, a.texts ≠ [lit "absent"] → b.texts ≠ [lit "absent"] →
    encodeDashboard a = encodeDashboard b → a = b
  supportClause : ∀ config : SupportConfig, ∃ text, supportClause (encodeSupport config) = .ok text ∧
    (text = lit "Support is not offered." ↔ config.offered = false)
  giftClause : ∀ config : FreeGiftConfig unicode, ∃ text,
    giftClause (encodeFreeGift config) = .ok text ∧
      (text = lit "No free gift is configured." ↔ config.offered = false)
  giftName : ∀ config : FreeGiftConfig unicode,
    (∃ text, giftName (encodeFreeGift config) = .ok text) ↔ config.offered = true
  giftCommunity : ∀ config : FreeGiftConfig unicode,
    (∃ text, giftCommunity (encodeFreeGift config) = .ok text) ↔ config.community.isSome = true
  dashboardSentence : ∀ behaviour : NotificationDashboard, behaviour.texts ≠ [lit "absent"] →
    ∃ text, dashboardSentence (encodeDashboard behaviour) = .ok text ∧
      (text = lit "Notification dashboard is not in this build." ↔ behaviour.present = false)
  widgetSentence : ∀ behaviour : NotificationDashboard, behaviour.texts ≠ [lit "absent"] →
    ∃ text, widgetSentence (encodeDashboard behaviour) = .ok text ∧
      (text = lit "Widgets are not in this build." ↔ behaviour.present = false)
  captionOutputs : ∀ behaviour : NotificationDashboard, behaviour.texts ≠ [lit "absent"] →
    ∃ text, captionOutputs (encodeDashboard behaviour) = .ok text ∧
      (behaviour.texts ≠ [lit "not in this build"] →
        (text = lit "not in this build" ↔ behaviour.present = false))

theorem SupportConfig.ext_channel {a b : SupportConfig} (h : a.channel = b.channel) : a = b := by
  have hoffered : a.offered = b.offered := by
    rw [← a.channelMatchesOffer, ← b.channelMatchesOffer, h]
  rcases a with ⟨offered, channel, hmatch, hpipe⟩
  rcases b with ⟨offered', channel', hmatch', hpipe'⟩
  dsimp only at h hoffered
  subst h
  subst hoffered
  rfl

theorem encodeSupport_injective {a b : SupportConfig} (h : encodeSupport a = encodeSupport b) :
    a = b := by
  apply SupportConfig.ext_channel
  unfold encodeSupport at h
  cases ha : a.channel with
  | none =>
    cases hb : b.channel with
    | none => rfl
    | some channel =>
      rw [ha, hb] at h
      exact absurd h.symm (offered_ne_notOffered channel.chars)
  | some channel =>
    cases hb : b.channel with
    | none =>
      rw [ha, hb] at h
      exact absurd h (offered_ne_notOffered channel.chars)
    | some channel' =>
      rw [ha, hb] at h
      rw [TrimmedText.ext_chars (List.append_cancel_left h)]

theorem FreeGiftConfig.ext_parts {unicode : Unicode} {a b : FreeGiftConfig unicode}
    (hname : a.name = b.name) (hcommunity : a.community = b.community) : a = b := by
  have hoffered : a.offered = b.offered := by
    rw [← a.nameMatchesOffer, ← b.nameMatchesOffer, hname]
  rcases a with ⟨offered, gift, community, hmatch, hneeds, hpipe, hlink⟩
  rcases b with ⟨offered', gift', community', hmatch', hneeds', hpipe', hlink'⟩
  dsimp only at hname hcommunity hoffered
  subst hname
  subst hcommunity
  subst hoffered
  rfl

theorem encodeFreeGift_injective {unicode : Unicode} {a b : FreeGiftConfig unicode}
    (h : encodeFreeGift a = encodeFreeGift b) : a = b := by
  cases ha : a.name with
  | none =>
    cases hb : b.name with
    | none =>
      apply FreeGiftConfig.ext_parts
      · rw [ha, hb]
      · rw [(encodeFreeGift_none ha).2.2, (encodeFreeGift_none hb).2.2]
    | some gift =>
      rw [(encodeFreeGift_none ha).1] at h
      exact absurd h.symm (encodeFreeGift_ne b hb)
  | some gift =>
    cases hb : b.name with
    | none =>
      rw [(encodeFreeGift_none hb).1] at h
      exact absurd h (encodeFreeGift_ne a ha)
    | some gift' =>
      have hparts := giftParts_encode a ha
      rw [h, giftParts_encode b hb] at hparts
      have hpair := Prod.mk.inj (Except.ok.inj hparts)
      apply FreeGiftConfig.ext_parts
      · rw [ha, hb, TrimmedText.ext_chars hpair.1]
      · apply Option.map_injective _ hpair.2.symm
        intro x y hxy
        exact TrimmedText.ext_chars hxy

theorem encodeDashboard_injective {a b : NotificationDashboard} (ha : a.texts ≠ [lit "absent"])
    (hb : b.texts ≠ [lit "absent"]) (h : encodeDashboard a = encodeDashboard b) : a = b := by
  apply NotificationDashboard.ext_texts
  have hiff : a.present = false ↔ b.present = false := by
    rw [← encodeDashboard_eq_absent a ha, ← encodeDashboard_eq_absent b hb, h]
  cases hpresent : a.present with
  | false => rw [(encodeDashboard_absent hpresent).2, (encodeDashboard_absent (hiff.mp hpresent)).2]
  | true =>
    have hpresent' : b.present = true := by
      rw [hpresent] at hiff
      simpa using hiff
    have hread := dashboardOutputs_join (NotificationDashboard.texts_ne hpresent) a.items
    rw [← encodeDashboard_present hpresent, h, encodeDashboard_present hpresent',
      dashboardOutputs_join (NotificationDashboard.texts_ne hpresent') b.items] at hread
    exact (Except.ok.inj hread).symm

/-- Texts that differ in one place are different. -/
theorem ne_of_char {a b : Text} (n : Nat) {c d : Char} (ha : a[n]? = some c) (hb : b[n]? = some d)
    (hne : c ≠ d) : a ≠ b := by
  rintro rfl
  rw [ha] at hb
  exact hne (Option.some.inj hb)

/-- A sentence that starts otherwise than the one for absence states absence only when there is nothing. -/
theorem states_absence {present : Bool} {sentence absence : Text} (hne : sentence ≠ absence) :
    (if present then sentence else absence) = absence ↔ present = false := by
  cases present with
  | false => simp
  | true => simpa using hne

theorem encodings_faithful (unicode : Unicode) : EncodingsFaithful unicode where
  support _ _ h := encodeSupport_injective h
  freeGift _ _ h := encodeFreeGift_injective h
  dashboard _ _ ha hb h := encodeDashboard_injective ha hb h
  supportClause := by
    intro config
    refine ⟨_, supportClause_encode config, ?_⟩
    rw [← config.channelMatchesOffer]
    cases config.channel with
    | none => exact ⟨fun _ => rfl, fun _ => rfl⟩
    | some channel =>
      have hne : ∀ rest, lit "Support channel: " ++ rest ≠ lit "Support is not offered." := by
        intro rest
        exact ne_of_char 8 rfl rfl (by decide)
      simp [hne]
  giftClause := by
    intro config
    refine ⟨_, giftClause_encode config, ?_⟩
    rw [← config.nameMatchesOffer]
    cases config.name with
    | none => exact ⟨fun _ => rfl, fun _ => rfl⟩
    | some gift =>
      have hne : ∀ rest, lit "Free gift: " ++ rest ≠ lit "No free gift is configured." := by
        intro rest
        exact ne_of_char 0 rfl rfl (by decide)
      cases config.community with
      | none => simp [hne]
      | some community => simp [hne]
  giftName := by
    intro config
    rw [giftName_encode, ← config.nameMatchesOffer]
    cases config.name with
    | none => simp
    | some gift => simp
  giftCommunity _ := giftCommunity_encode _
  dashboardSentence := by
    intro behaviour hword
    refine ⟨_, dashboardSentence_encode behaviour hword, ?_⟩
    apply states_absence
    exact ne_of_char 22 rfl rfl (by decide)
  widgetSentence := by
    intro behaviour hword
    refine ⟨_, widgetSentence_encode behaviour hword, ?_⟩
    apply states_absence
    exact ne_of_char 7 rfl rfl (by decide)
  captionOutputs := by
    intro behaviour hword
    refine ⟨_, captionOutputs_encode behaviour hword, ?_⟩
    intro hcaption
    cases hpresent : behaviour.present with
    | false => simp
    | true =>
      constructor
      · intro hjoin
        exact absurd (join_eq_caption (NotificationDashboard.texts_ne hpresent) hjoin) hcaption
      · intro hfalse
        cases hfalse

theorem noText_isSome : (none : Option TrimmedText).isSome = false :=
  rfl

theorem noText_unoffered : false = false → (none : Option TrimmedText) = none :=
  fun _ => rfl

theorem noText_noPipe (value : TrimmedText) :
    ((none : Option TrimmedText) = some value ∨ (none : Option TrimmedText) = some value) →
      '|' ∉ value.chars := by
  simp

theorem noText_noLink (value : TrimmedText) :
    ((none : Option TrimmedText) = some value ∨ (none : Option TrimmedText) = some value) →
      ∀ mark ∈ [lit "http://", lit "https://", lit "checkout"],
        ¬ mark <:+: Unicode.ascii.casefold value.chars := by
  simp

/-- No gift is offered. -/
def noGift : FreeGiftConfig Unicode.ascii where
  offered := false
  name := none
  community := none
  nameMatchesOffer := noText_isSome
  communityNeedsOffer := noText_unoffered
  noPipe := noText_noPipe
  noLink := noText_noLink

/-- The name of a gift that is not offered is refused. -/
theorem noGift_has_no_name :
    giftName (encodeFreeGift noGift) = .error (lit "free gift fact is not an offered value") :=
  rfl

end Agents
end MoneyMachine
