import HarborGate.Gateway.Items
import HarborGate.Lib.Result

/-!
What `split_outbound_items` keeps of a message. An attachment without an artifact id gets no item
of its own; it stays only where nothing else makes an item and the message is sent as one.
-/

namespace HarborGate

def isNamed (attachment : Json) : Bool :=
  (deliveryArtifactId attachment).isSome

theorem attachmentItems_keeps {outbound : OutboundMessage} {attachments : List Json} :
    ∀ {seen : List String} {items : List DeliveryItem},
      attachmentItems outbound seen attachments = .ok items →
      items.flatMap (·.outbound.attachments) = attachments.filter isNamed ∧
        ∀ item ∈ items, item.outbound.text = "" := by
  induction attachments with
  | nil =>
      intro seen items ok
      obtain rfl := Except.ok.inj ok
      simp
  | cons attachment rest ih =>
      intro seen items ok
      simp only [attachmentItems] at ok
      split at ok
      · rename_i unnamed
        have skipped : isNamed attachment = false := by simp [isNamed, unnamed]
        rw [List.filter_cons_of_neg (by simp [skipped])]
        exact ih ok
      · rename_i artifactId named
        have kept : isNamed attachment = true := by simp [isNamed, named]
        split at ok
        · simp at ok
        · obtain ⟨others, tail, rfl⟩ := Result.map_eq_ok.mp ok
          obtain ⟨attached, silent⟩ := ih tail
          rw [List.filter_cons_of_pos kept, List.flatMap_cons, attached]
          refine ⟨rfl, ?_⟩
          intro item member
          rcases List.mem_cons.mp member with rfl | later
          · rfl
          · exact silent item later

/-- The loop fails at the first artifact id that repeats, and nowhere else. -/
theorem attachmentItems_fails {outbound : OutboundMessage} {attachments : List Json} :
    ∀ {seen : List String} {error : GatewayError},
      attachmentItems outbound seen attachments = .error error →
      error.code = "DUPLICATE_DELIVERY_ARTIFACT" ∧
        ((∃ artifactId ∈ attachments.filterMap deliveryArtifactId, artifactId ∈ seen) ∨
          ¬(attachments.filterMap deliveryArtifactId).Nodup) := by
  induction attachments with
  | nil => simp [attachmentItems]
  | cons attachment rest ih =>
      intro seen error failed
      simp only [attachmentItems] at failed
      split at failed
      · rename_i unnamed
        rw [List.filterMap_cons_none unnamed]
        exact ih failed
      · rename_i artifactId named
        rw [List.filterMap_cons_some named]
        split at failed
        · rename_i repeated
          obtain rfl := Except.error.inj failed
          exact ⟨rfl, .inl ⟨artifactId, List.mem_cons_self, repeated⟩⟩
        · cases tail : attachmentItems outbound (artifactId :: seen) rest with
          | ok items => simp [tail, Except.map] at failed
          | error reason =>
              simp only [tail, Except.map, Except.error.injEq] at failed
              subst failed
              obtain ⟨code, reasons⟩ := ih tail
              refine ⟨code, ?_⟩
              rcases reasons with ⟨other, later, old⟩ | repeats
              · rcases List.mem_cons.mp old with rfl | older
                · right
                  intro distinct
                  exact (List.nodup_cons.mp distinct).1 later
                · exact .inl ⟨other, List.mem_cons_of_mem _ later, older⟩
              · right
                intro distinct
                exact repeats (List.nodup_cons.mp distinct).2

theorem attachmentItems_distinct {outbound : OutboundMessage} {attachments : List Json} :
    ∀ {seen : List String} {items : List DeliveryItem},
      attachmentItems outbound seen attachments = .ok items →
      (attachments.filterMap deliveryArtifactId).Nodup ∧
        ∀ artifactId ∈ attachments.filterMap deliveryArtifactId, artifactId ∉ seen := by
  induction attachments with
  | nil => simp
  | cons attachment rest ih =>
      intro seen items ok
      simp only [attachmentItems] at ok
      split at ok
      · rename_i unnamed
        rw [List.filterMap_cons_none unnamed]
        exact ih ok
      · rename_i artifactId named
        rw [List.filterMap_cons_some named]
        split at ok
        · simp at ok
        · rename_i fresh
          obtain ⟨others, tail, rfl⟩ := Result.map_eq_ok.mp ok
          obtain ⟨distinct, unseen⟩ := ih tail
          constructor
          · refine List.nodup_cons.mpr ⟨fun later => ?_, distinct⟩
            exact unseen artifactId later List.mem_cons_self
          · intro other member
            rcases List.mem_cons.mp member with rfl | later
            · exact fresh
            · exact fun old => unseen other later (List.mem_cons_of_mem _ old)

theorem attachmentItems_unnamed {outbound : OutboundMessage} {attachments : List Json}
    {seen : List String} (unnamed : ∀ attachment ∈ attachments, isNamed attachment = false) :
    attachmentItems outbound seen attachments = .ok [] := by
  induction attachments with
  | nil => rfl
  | cons attachment rest ih =>
      have none : deliveryArtifactId attachment = none := by
        simpa [isNamed] using unnamed attachment List.mem_cons_self
      simp only [attachmentItems, none]
      exact ih fun other member => unnamed other (List.mem_cons_of_mem _ member)

/-! ## Nothing lost, nothing twice -/

/-- The items carry the message: its text in one of them unless it is blank, every attachment in
one of them and in its order, under keys that differ. -/
structure Carries (outbound : OutboundMessage) (items : List DeliveryItem) : Prop where
  text : (items.map (·.outbound.text)).filter (fun text => !Text.isBlank text) =
    [outbound.text].filter fun text => !Text.isBlank text
  attachments : items.flatMap (·.outbound.attachments) = outbound.attachments
  distinct : (items.map (·.identity)).Nodup

def LosesNothing (outbound : OutboundMessage) : Prop :=
  match splitOutboundItems outbound with
  | .error error => error.code = "DUPLICATE_DELIVERY_ARTIFACT"
  | .ok items => Carries outbound items

theorem splitOutboundItems_texts {outbound : OutboundMessage} {items : List DeliveryItem}
    (ok : splitOutboundItems outbound = .ok items) :
    (items.map (·.outbound.text)).filter (fun text => !Text.isBlank text) =
      [outbound.text].filter fun text => !Text.isBlank text := by
  obtain ⟨attachments, found, rfl⟩ := Result.map_eq_ok.mp ok
  have silent : (attachments.map (·.outbound.text)).filter (fun text => !Text.isBlank text) = [] := by
    refine List.filter_eq_nil_iff.mpr ?_
    intro text member
    obtain ⟨item, listed, rfl⟩ := List.mem_map.mp member
    rw [(attachmentItems_keeps found).2 item listed]
    decide
  by_cases blank : Text.isBlank outbound.text = true
  · simp only [blank, if_true]
    split
    · rfl
    · simpa [blank] using silent
  · simp only [blank, Bool.false_eq_true, if_false, List.isEmpty_cons, List.map_cons]
    rw [List.filter_cons, silent]
    simp [textItem, blank]

/-- Where every attachment is named they are all kept; where none is, a message without text is
kept whole. -/
theorem splitOutboundItems_attached_iff {outbound : OutboundMessage} {items : List DeliveryItem}
    (ok : splitOutboundItems outbound = .ok items) :
    items.flatMap (·.outbound.attachments) = outbound.attachments ↔
      (∀ attachment ∈ outbound.attachments, isNamed attachment = true) ∨
        (Text.isBlank outbound.text = true ∧
          ∀ attachment ∈ outbound.attachments, isNamed attachment = false) := by
  obtain ⟨attachments, found, rfl⟩ := Result.map_eq_ok.mp ok
  obtain ⟨attached, -⟩ := attachmentItems_keeps found
  by_cases blank : Text.isBlank outbound.text = true
  · simp only [blank, if_true]
    cases attachments with
    | nil =>
        have unnamed : outbound.attachments.filter isNamed = [] := by simpa using attached.symm
        have all := List.filter_eq_nil_iff.mp unnamed
        simp only [List.isEmpty_nil, if_true, List.flatMap_cons, List.flatMap_nil,
          List.append_nil, textItem, true_iff]
        right
        exact ⟨trivial, fun attachment member => by simpa using all attachment member⟩
    | cons item rest =>
        simp only [List.isEmpty_cons, Bool.false_eq_true, if_false, attached,
          List.filter_eq_self]
        constructor
        · exact .inl
        · rintro (named | ⟨-, unnamed⟩)
          · exact named
          · rw [attachmentItems_unnamed unnamed] at found
            simp at found
  · simp only [blank, Bool.false_eq_true, if_false, List.isEmpty_cons, List.flatMap_cons, attached,
      textItem, List.nil_append, List.filter_eq_self, false_and, or_false]

theorem splitOutboundItems_fails {outbound : OutboundMessage} {error : GatewayError}
    (failed : splitOutboundItems outbound = .error error) :
    error.code = "DUPLICATE_DELIVERY_ARTIFACT" ∧
      ¬(outbound.attachments.filterMap deliveryArtifactId).Nodup := by
  simp only [splitOutboundItems] at failed
  cases found : attachmentItems outbound [] outbound.attachments with
  | ok items => simp [found, Except.map] at failed
  | error reason =>
      simp only [found, Except.map, Except.error.injEq] at failed
      subst failed
      obtain ⟨code, reasons⟩ := attachmentItems_fails found
      refine ⟨code, ?_⟩
      rcases reasons with ⟨artifactId, -, old⟩ | repeats
      · exact absurd old List.not_mem_nil
      · exact repeats

/-- Splitting loses nothing and repeats nothing exactly if it fails over a repeated id, if every
attachment has an id, or if neither the text nor an attachment makes an item. -/
theorem splitOutboundItems_loses_nothing_iff (outbound : OutboundMessage) :
    LosesNothing outbound ↔
      (¬(outbound.attachments.filterMap deliveryArtifactId).Nodup ∨
        (∀ attachment ∈ outbound.attachments, isNamed attachment = true) ∨
        (Text.isBlank outbound.text = true ∧
          ∀ attachment ∈ outbound.attachments, isNamed attachment = false)) := by
  simp only [LosesNothing]
  cases split : splitOutboundItems outbound with
  | error error =>
      obtain ⟨code, repeats⟩ := splitOutboundItems_fails split
      exact ⟨fun _ => .inl repeats, fun _ => code⟩
  | ok items =>
      obtain ⟨attachments, found, -⟩ := Result.map_eq_ok.mp split
      have distinct := (attachmentItems_distinct found).1
      have attached := splitOutboundItems_attached_iff split
      constructor
      · intro carries
        exact .inr (attached.mp carries.attachments)
      · rintro (repeats | kept)
        · exact absurd distinct repeats
        · exact ⟨splitOutboundItems_texts split, attached.mpr kept,
            splitOutboundItems_identities split⟩

/-- A snapshot without an artifact id next to a clip with one. -/
def snapshotAndClip : OutboundMessage where
  platform := "weixin"
  chatId := "chat"
  text := ""
  attachments := [
    .obj [("kind", .str "image"), ("mime_type", .str "image/jpeg"),
      ("url", .str "/api/cameras/recordings/artifacts/snapshot")],
    .obj [("artifact_id", .str "clip"), ("kind", .str "video"), ("mime_type", .str "video/mp4"),
      ("url", .str "/api/cameras/recordings/artifacts/clip")]]
  timestamp := ""
  metadata := []

theorem snapshotAndClip_loses_snapshot : ¬LosesNothing snapshotAndClip := by
  intro kept
  have length := congrArg List.length kept.attachments
  exact absurd length (by decide)

end HarborGate
