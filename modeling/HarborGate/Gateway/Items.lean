import Mathlib.Data.List.Nodup
import HarborGate.Gateway.Delivery

/-!
The items a message is split into. Their keys tell them apart, and which of them need their
media fetched depends only on the text and the attachments of the message.
-/

namespace HarborGate

theorem attachmentItemIdentity_injective {first second : String}
    (same : attachmentItemIdentity first = attachmentItemIdentity second) : first = second := by
  unfold attachmentItemIdentity at same
  generalize "item:v1:artifact:" = lead at same
  have numbered : toString (Text.utf8Len first) ++ (":" ++ first) =
      toString (Text.utf8Len second) ++ (":" ++ second) := by
    refine (String.append_right_inj lead).mp ?_
    simpa only [String.append_assoc] using same
  have characters := congrArg String.toList numbered
  have colon : ":".toList = [':'] := rfl
  simp only [String.toList_append, colon] at characters
  exact String.toList_injective (Text.split_at_separator (Text.colon_not_in_number _)
    (Text.colon_not_in_number _) characters).2

theorem attachmentItemIdentity_ne_text (artifactId : String) :
    attachmentItemIdentity artifactId ≠ textItemIdentity := by
  intro same
  unfold attachmentItemIdentity textItemIdentity at same
  have start : ∀ rest, ("item:v1:artifact:" ++ rest).toList.take 9 ≠ "item:v1:text".toList.take 9 := by
    intro rest
    rw [String.toList_append, List.take_append_of_le_length (by decide)]
    decide
  refine start (toString (Text.utf8Len artifactId) ++ (":" ++ artifactId)) ?_
  rw [← same]
  simp only [String.append_assoc]

/-- A text is as long as one that it begins with only if it is the same. -/
theorem eq_of_append_of_utf8Len {text other : String} {tail : List Char}
    (longer : other.toList = text.toList ++ tail) (size : Text.utf8Len text = Text.utf8Len other) :
    text = other := by
  have whole : other = text ++ String.ofList tail := by
    apply String.toList_injective
    rw [longer, String.toList_append, String.toList_ofList]
  rw [Text.utf8Len, Text.utf8Len, whole, String.utf8ByteSize_append] at size
  have empty : String.ofList tail = "" := String.utf8ByteSize_eq_zero_iff.mp (by omega)
  rw [whole, empty, String.append_empty]

/-- The length that leads a key tells where its first part ends. -/
theorem deliveryItemKey_parts {deliveryKey otherKey first second : String}
    (same : deliveryItemKey deliveryKey first = deliveryItemKey otherKey second) :
    deliveryKey = otherKey ∧ first = second := by
  unfold deliveryItemKey at same
  generalize "delivery:v1:" = lead at same
  have numbered : toString (Text.utf8Len deliveryKey) ++ (":" ++ (deliveryKey ++ (":" ++ first))) =
      toString (Text.utf8Len otherKey) ++ (":" ++ (otherKey ++ (":" ++ second))) := by
    refine (String.append_right_inj lead).mp ?_
    simpa only [String.append_assoc] using same
  have characters := congrArg String.toList numbered
  have colon : ":".toList = [':'] := rfl
  simp only [String.toList_append, colon] at characters
  obtain ⟨digits, rest⟩ := Text.split_at_separator (Text.colon_not_in_number _)
    (Text.colon_not_in_number _) characters
  replace rest : deliveryKey.toList ++ (':' :: first.toList) =
      otherKey.toList ++ (':' :: second.toList) := rest
  have size : Text.utf8Len deliveryKey = Text.utf8Len otherKey := by
    have printed := congrArg (Nat.ofDigitChars 10 · 0) digits
    simpa [Nat.toString_eq_ofList_toDigits] using printed
  have equal : deliveryKey = otherKey := by
    rcases List.append_eq_append_iff.mp rest with ⟨tail, longer, -⟩ | ⟨tail, longer, -⟩
    · exact eq_of_append_of_utf8Len longer size
    · exact (eq_of_append_of_utf8Len longer size.symm).symm
  subst equal
  refine ⟨rfl, ?_⟩
  exact String.toList_injective (List.cons.inj (List.append_cancel_left rest)).2

theorem deliveryItemKey_injective {deliveryKey first second : String}
    (same : deliveryItemKey deliveryKey first = deliveryItemKey deliveryKey second) :
    first = second :=
  (String.append_right_inj _).mp same

/-- What decides whether an item needs its media fetched, next to the adapter. -/
def DeliveryItem.shape (item : DeliveryItem) : String × List Json :=
  (item.identity, item.outbound.attachments)

theorem attachmentItems_shape (first second : OutboundMessage) (attachments : List Json) :
    ∀ seen, (attachmentItems first seen attachments).map (·.map DeliveryItem.shape) =
      (attachmentItems second seen attachments).map (·.map DeliveryItem.shape) := by
  induction attachments with
  | nil => exact fun _ => rfl
  | cons attachment rest ih =>
      intro seen
      simp only [attachmentItems]
      split
      · exact ih seen
      · rename_i artifactId _
        split
        · rfl
        · have tail := ih (artifactId :: seen)
          cases left : attachmentItems first (artifactId :: seen) rest with
          | error error =>
              cases right : attachmentItems second (artifactId :: seen) rest with
              | error other =>
                  simp only [left, right, Except.map] at tail ⊢
                  exact tail
              | ok items => simp [left, right, Except.map] at tail
          | ok items =>
              cases right : attachmentItems second (artifactId :: seen) rest with
              | error other => simp [left, right, Except.map] at tail
              | ok others =>
                  simp only [left, right, Except.map, Except.ok.injEq] at tail ⊢
                  simp only [List.map_cons, tail]
                  rfl

theorem splitOutboundItems_shape {first second : OutboundMessage} (text : first.text = second.text)
    (attachments : first.attachments = second.attachments) :
    (splitOutboundItems first).map (·.map DeliveryItem.shape) =
      (splitOutboundItems second).map (·.map DeliveryItem.shape) := by
  have parts := attachmentItems_shape first second first.attachments []
  simp only [splitOutboundItems, text, ← attachments]
  cases left : attachmentItems first [] first.attachments with
  | error error =>
      cases right : attachmentItems second [] first.attachments with
      | error other => simpa [left, right, Except.map] using parts
      | ok items => simp [left, right, Except.map] at parts
  | ok items =>
      cases right : attachmentItems second [] first.attachments with
      | error other => simp [left, right, Except.map] at parts
      | ok others =>
          simp only [left, right, Except.map, Except.ok.injEq] at parts ⊢
          by_cases blank : Text.isBlank second.text = true
          · simp only [blank, if_true]
            cases items with
            | nil =>
                have empty : others = [] := by simpa using parts.symm
                simp [empty, textItem, DeliveryItem.shape, attachments]
            | cons item items =>
                cases others with
                | nil => simp at parts
                | cons other others => simpa using parts
          · simp only [blank, Bool.false_eq_true, if_false, List.isEmpty_cons, List.map_cons, parts]
            rfl

theorem attachmentItems_identities {outbound : OutboundMessage} {attachments : List Json} :
    ∀ {seen : List String} {items : List DeliveryItem},
      attachmentItems outbound seen attachments = .ok items →
      (items.map (·.identity)).Nodup ∧ ∀ item ∈ items, ∃ artifactId, artifactId ∉ seen ∧
        item.identity = attachmentItemIdentity artifactId := by
  induction attachments with
  | nil =>
      intro seen items ok
      obtain rfl := Except.ok.inj ok
      simp
  | cons attachment rest ih =>
      intro seen items ok
      simp only [attachmentItems] at ok
      split at ok
      · exact ih ok
      · rename_i artifactId _
        split at ok
        · simp at ok
        · rename_i fresh
          cases tail : attachmentItems outbound (artifactId :: seen) rest with
          | error error => simp [tail, Except.map] at ok
          | ok others =>
              simp only [tail, Except.map, Except.ok.injEq] at ok
              subst ok
              obtain ⟨distinct, named⟩ := ih tail
              constructor
              · simp only [List.map_cons, List.nodup_cons]
                refine ⟨fun member => ?_, distinct⟩
                obtain ⟨other, listed, same⟩ := List.mem_map.mp member
                obtain ⟨otherId, unseen, identity⟩ := named other listed
                have equal := attachmentItemIdentity_injective (identity.symm.trans same)
                exact unseen (by simp [equal])
              · intro item member
                rcases List.mem_cons.mp member with rfl | later
                · exact ⟨artifactId, fresh, rfl⟩
                · obtain ⟨otherId, unseen, identity⟩ := named item later
                  exact ⟨otherId, fun old => unseen (List.mem_cons_of_mem _ old), identity⟩

theorem splitOutboundItems_identities {outbound : OutboundMessage} {items : List DeliveryItem}
    (ok : splitOutboundItems outbound = .ok items) : (items.map (·.identity)).Nodup := by
  simp only [splitOutboundItems] at ok
  cases found : attachmentItems outbound [] outbound.attachments with
  | error error => simp [found, Except.map] at ok
  | ok attachments =>
      obtain ⟨distinct, named⟩ := attachmentItems_identities found
      simp only [found, Except.map, Except.ok.injEq] at ok
      subst ok
      by_cases blank : Text.isBlank outbound.text = true
      · simp only [blank, if_true]
        split
        · simp
        · exact distinct
      · simp only [blank, Bool.false_eq_true, if_false, List.isEmpty_cons, List.map_cons,
          List.nodup_cons]
        refine ⟨fun member => ?_, distinct⟩
        obtain ⟨item, listed, same⟩ := List.mem_map.mp member
        obtain ⟨artifactId, -, identity⟩ := named item listed
        exact attachmentItemIdentity_ne_text artifactId (identity.symm.trans same)

/-- Items of equal messages that share a key have equal attachments. -/
theorem splitOutboundItems_attachments {first second : OutboundMessage}
    {items others : List DeliveryItem} {item other : DeliveryItem}
    (text : first.text = second.text) (attachments : first.attachments = second.attachments)
    (ok : splitOutboundItems first = .ok items) (okOther : splitOutboundItems second = .ok others)
    (member : item ∈ items) (otherMember : other ∈ others)
    (identity : item.identity = other.identity) :
    item.outbound.attachments = other.outbound.attachments := by
  have shapes := splitOutboundItems_shape text attachments
  simp only [ok, okOther, Except.map, Except.ok.injEq] at shapes
  have listed : item.shape ∈ others.map DeliveryItem.shape := by
    rw [← shapes]
    exact List.mem_map_of_mem member
  obtain ⟨twin, twinMember, same⟩ := List.mem_map.mp listed
  simp only [DeliveryItem.shape, Prod.mk.injEq] at same
  have equal : twin = other :=
    List.inj_on_of_nodup_map (splitOutboundItems_identities okOther) twinMember otherMember
      (same.1.trans identity)
  rw [← same.2, equal]

theorem splitOutboundItems_identity {outbound : OutboundMessage} {items : List DeliveryItem}
    (ok : splitOutboundItems outbound = .ok items) : ∀ item ∈ items,
      item.identity = textItemIdentity ∨
        ∃ artifactId, item.identity = attachmentItemIdentity artifactId := by
  simp only [splitOutboundItems] at ok
  cases found : attachmentItems outbound [] outbound.attachments with
  | error error => simp [found, Except.map] at ok
  | ok attachments =>
      obtain ⟨-, named⟩ := attachmentItems_identities found
      simp only [found, Except.map, Except.ok.injEq] at ok
      subst ok
      have attached : ∀ item ∈ attachments, item.identity = textItemIdentity ∨
          ∃ artifactId, item.identity = attachmentItemIdentity artifactId := by
        intro item member
        obtain ⟨artifactId, -, identity⟩ := named item member
        exact .inr ⟨artifactId, identity⟩
      intro item member
      by_cases blank : Text.isBlank outbound.text = true
      · simp only [blank, if_true] at member
        split at member
        · rw [List.mem_singleton.mp member]
          exact .inl rfl
        · exact attached item member
      · simp only [blank, Bool.false_eq_true, if_false, List.isEmpty_cons] at member
        rcases List.mem_cons.mp member with rfl | later
        · exact .inl rfl
        · exact attached item later

/-- The keys of two items agree only if their deliveries and their identities do, and an identity
tells which artifact it is made from, if any. -/
theorem delivery_item_keys_are_injective :
    (∀ deliveryKey otherKey identity otherIdentity,
      deliveryItemKey deliveryKey identity = deliveryItemKey otherKey otherIdentity →
      deliveryKey = otherKey ∧ identity = otherIdentity) ∧
    (∀ outbound items, splitOutboundItems outbound = .ok items → ∀ item ∈ items,
      item.identity = textItemIdentity ∨
        ∃ artifactId, item.identity = attachmentItemIdentity artifactId) ∧
    (∀ first second, attachmentItemIdentity first = attachmentItemIdentity second →
      first = second) ∧
    ∀ artifactId, attachmentItemIdentity artifactId ≠ textItemIdentity :=
  ⟨fun _ _ _ _ => deliveryItemKey_parts, fun _ _ => splitOutboundItems_identity,
    fun _ _ => attachmentItemIdentity_injective, attachmentItemIdentity_ne_text⟩

end HarborGate
