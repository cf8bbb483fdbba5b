import HarborGate.Fleet.Retired
import HarborGate.Gateway.Relay

/-!
What happens to a selection when the relay reports that its device has a new identity. The report
reaches `invalidate_identity` from a camera probe and from the notification outbox; the text
authorization turns it into a denial, and a notification receipt passes it on without clean-up.
-/

namespace HarborGate

open Interleave NaviFleet

/-- The relay answered this contact with `HUB_IDENTITY_CHANGED`. -/
def Contact.changed (contact : Contact) : Prop :=
  contact.answer = .error CloudRelay.identityChanged

/-- No route has an active selection of the contacted device. -/
def Contact.Cleared (contact : Contact) (directory : Directory) : Prop :=
  ∀ name selection, activeOf directory name = some selection →
    ¬(selection.hubId = contact.hubId ∧ selection.hubIdentity = contact.hubIdentity)

/-! ## Error codes -/

/-- An error that no clean-up looks for. -/
def Unrelated (error : GatewayError) : Prop :=
  error.code ≠ "NAVI_IDENTITY_CHANGED"

instance (error : GatewayError) : Decidable (Unrelated error) :=
  inferInstanceAs (Decidable (error.code ≠ "NAVI_IDENTITY_CHANGED"))

theorem ensure_failsOnly {condition : Prop} [Decidable condition] {allowed : GatewayError → Prop}
    {error : GatewayError} (holds : allowed error) :
    Result.FailsOnly allowed (ensure condition error) := by
  simp only [ensure]
  split
  · exact Result.FailsOnly.ok ()
  · exact Result.FailsOnly.error holds

theorem require_failsOnly {α : Type} {value : Option α} {allowed : GatewayError → Prop}
    {error : GatewayError} (holds : allowed error) :
    Result.FailsOnly allowed (require value error) := by
  cases value with
  | none => exact Result.FailsOnly.error holds
  | some present => exact Result.FailsOnly.ok present

section Exchange

variable {allowed : GatewayError → Prop} (defers : allowed CloudRelay.unavailable)

include defers

theorem readAnswer_fails {id : String} {now : Int} {deadline : Option Int}
    {identity : Option String} {payload : Json} :
    Result.FailsOnly allowed (CloudRelay.readAnswer id now deadline identity payload) := by
  refine .bind (require_failsOnly defers) fun _ _ => ?_
  refine .bind (require_failsOnly defers) fun _ _ => ?_
  refine .bind (ensure_failsOnly defers) fun _ _ => ?_
  refine .bind (ensure_failsOnly defers) fun _ _ => ?_
  exact .ok _

theorem readResult_fails {codec : CloudRelay.Codec} {device : String} {payload : Json} :
    Result.FailsOnly allowed (CloudRelay.readResult codec device payload) := by
  refine .bind (ensure_failsOnly defers) fun _ _ => ?_
  refine .bind (require_failsOnly defers) fun _ _ => ?_
  refine .bind (require_failsOnly defers) fun _ _ => ?_
  refine .bind (ensure_failsOnly defers) fun _ _ => ?_
  exact .ok _

/-- Besides its own two errors the loop returns only the failed requests it is not to repeat. -/
theorem exchangeLoop_fails {codec : CloudRelay.Codec} {id : String}
    (changed : allowed CloudRelay.identityChanged) (replies : List RelayReply)
    (final : ∀ error, .failed error ∈ replies → error.code = "NAVI_RELAY_INVALID_RESPONSE" →
      allowed error) : ∀ (deadline : Option Int) (identity : Option String),
      Result.FailsOnly allowed (CloudRelay.exchangeLoop codec id replies deadline identity) := by
  induction replies with
  | nil => exact fun _ _ => .error defers
  | cons reply rest ih =>
      intro deadline identity
      have ih := ih fun error member => final error (List.mem_cons_of_mem _ member)
      cases reply with
      | failed error =>
          simp only [CloudRelay.exchangeLoop]
          split
          · rename_i unrepeated
            exact .error (final error List.mem_cons_self unrepeated)
          · exact ih deadline identity
      | answered status body now =>
          simp only [CloudRelay.exchangeLoop]
          split
          · exact ih deadline identity
          split
          · exact .error changed
          split
          · exact .error defers
          split
          · exact .error defers
          split
          · rename_i failed
            exact .error (readAnswer_fails defers _ failed)
          split
          · split
            · exact ih _ _
            · exact .error defers
          · exact fun error failed => readResult_fails defers error failed

end Exchange

/-- The exchange carries the code only for a reported change of identity. -/
theorem exchangeLoop_failsOnly {codec : CloudRelay.Codec} {id : String}
    (replies : List RelayReply) (deadline : Option Int) (identity : Option String) :
      Result.FailsOnly (fun error => Unrelated error ∨ error = CloudRelay.identityChanged)
        (CloudRelay.exchangeLoop codec id replies deadline identity) := by
  refine exchangeLoop_fails (Or.inl (by decide)) (Or.inr rfl) replies ?_ deadline identity
  intro error _ unrepeated
  exact Or.inl (by simp [Unrelated, unrepeated])

theorem authorizationOutcome_failsOnly (codec : CloudRelay.Codec)
    (answer : FleetResult RelayResponse) :
    Result.FailsOnly Unrelated (HarborBeacon.authorizationOutcome codec answer) := by
  have denies : Unrelated HarborBeacon.denied := by decide
  have defers : Unrelated HarborBeacon.unavailable := by decide
  simp only [HarborBeacon.authorizationOutcome]
  split
  · split
    · exact .error denies
    · exact .error defers
  split
  · exact .error denies
  split
  · exact .error defers
  split
  · exact .error denies
  · exact .ok ()

/-- A probe keeps the code of its exchange and adds none of its own. -/
theorem probeOutcome_failsOnly (codec : CloudRelay.Codec) (artifact : Json)
    (answer : FleetResult RelayResponse) :
    Result.FailsOnly (fun error => Unrelated error ∨ answer = .error error)
      (HarborBeacon.probeOutcome codec artifact answer) := by
  have media : Unrelated HarborBeacon.invalidMedia := by decide
  refine .bind (fun error failed => Or.inr failed) fun response _ => ?_
  refine .bind (require_failsOnly (Or.inl (by decide))) fun mime _ => ?_
  refine .bind (ensure_failsOnly (Or.inl (by decide))) fun _ _ => ?_
  refine .bind (ensure_failsOnly (Or.inl media)) fun _ _ => ?_
  refine .bind (require_failsOnly (Or.inl media)) fun _ _ => ?_
  refine .bind (ensure_failsOnly (Or.inl media)) fun _ _ => ?_
  refine .bind (require_failsOnly (Or.inl media)) fun _ _ => ?_
  refine .bind (require_failsOnly (Or.inl media)) fun _ _ => ?_
  exact ensure_failsOnly (Or.inl media)

/-! ## What a contact leaves behind -/

def Unreported (contacts : List Contact) : Prop :=
  ∀ contact ∈ contacts, ¬contact.changed

/-- The relay reported the change, for this device and to this operation only. -/
structure Reported (selection : Selection) (operation : String) (contacts : List Contact) :
    Prop where
  reported : ∃ contact ∈ contacts, contact.changed
  only : ∀ contact ∈ contacts, contact.changed →
    contact.hubId = selection.hubId ∧ contact.hubIdentity = selection.hubIdentity ∧
      contact.operation = operation

theorem Reported.append {selection : Selection} {operation : String} {contacts : List Contact}
    (quiet : Unreported contacts) (answer : FleetResult RelayResponse)
    (changed : answer = .error CloudRelay.identityChanged) :
    Reported selection operation
      (contacts ++ [⟨selection.hubId, selection.hubIdentity, operation, answer⟩]) := by
  constructor
  · exact ⟨_, List.mem_append_right _ List.mem_cons_self, changed⟩
  · intro contact member report
    rcases List.mem_append.mp member with earlier | last
    · exact absurd report (quiet contact earlier)
    · rw [List.mem_singleton.mp last]
      exact ⟨rfl, rfl, rfl⟩

/-- A call that contacted the relay for `operation` at most, and fails with the code exactly when
the relay reported the change. -/
structure Spoke {α : Type} (selection : Selection) (operation : String) (desk : Desk)
    (outcome : FleetResult α × Desk) : Prop where
  directory : outcome.2.directory = desk.directory
  transactions : outcome.2.transactions = desk.transactions
  answered : Unreported outcome.2.contacts ∧ Result.FailsOnly Unrelated outcome.1 ∨
    Reported selection operation outcome.2.contacts ∧
      outcome.1 = .error CloudRelay.identityChanged

section

variable {around : Surroundings} {selection : Selection} {operation : String}

theorem exchange_spoke (body : Json) {desk : Desk} (quiet : Unreported desk.contacts) :
    Spoke selection operation desk (desk.exchange around selection operation body) := by
  simp only [Desk.exchange]
  split
  · refine ⟨rfl, rfl, ?_⟩
    generalize result : CloudRelay.exchangeLoop around.codec
      (around.requestId desk.contacts.length) (around.replies desk.contacts.length) none
      (some selection.hubIdentity) = answer
    by_cases changed : answer = .error CloudRelay.identityChanged
    · exact Or.inr ⟨Reported.append quiet answer changed, changed⟩
    · refine Or.inl ⟨?_, ?_⟩
      · intro contact member
        rcases List.mem_append.mp member with earlier | last
        · exact quiet contact earlier
        · rw [List.mem_singleton.mp last]
          exact changed
      · intro error failed
        rcases exchangeLoop_failsOnly _ _ _ error (result.trans failed) with unrelated | rfl
        · exact unrelated
        · exact absurd failed changed
  · exact ⟨rfl, rfl, Or.inl ⟨quiet, .error (by decide)⟩⟩

theorem authorizeCameraAttachments_spoke (cameras : List Json) : ∀ {desk : Desk},
    Unreported desk.contacts →
    Spoke selection "mediaArtifact" desk
      (HarborBeacon.authorizeCameraAttachments around selection cameras desk) := by
  induction cameras with
  | nil => exact fun quiet => ⟨rfl, rfl, Or.inl ⟨quiet, .ok ()⟩⟩
  | cons artifact rest ih =>
      intro desk quiet
      simp only [HarborBeacon.authorizeCameraAttachments]
      split
      · exact ⟨rfl, rfl, Or.inl ⟨quiet, .error (by decide)⟩⟩
      · rename_i id _
        have spoke : Spoke selection "mediaArtifact" desk (desk.exchange around selection
            "mediaArtifact" (.obj [("artifact_id", .str id), ("range", .str "bytes=0-0")])) :=
          exchange_spoke _ quiet
        generalize desk.exchange around selection "mediaArtifact"
          (.obj [("artifact_id", .str id), ("range", .str "bytes=0-0")]) = outcome at spoke
        obtain ⟨answer, next⟩ := outcome
        obtain ⟨directory, transactions, answered⟩ := spoke
        have probe := probeOutcome_failsOnly around.codec artifact answer
        rcases answered with ⟨still, unrelated⟩ | ⟨reported, rfl⟩
        · split
          · rename_i error failed
            refine ⟨directory, transactions, Or.inl ⟨still, .error ?_⟩⟩
            rcases probe error failed with other | passed
            · exact other
            · exact unrelated error passed
          · obtain ⟨sameDirectory, sameCount, rest⟩ := ih still
            exact ⟨sameDirectory.trans directory, sameCount.trans transactions, rest⟩
        · exact ⟨directory, transactions, Or.inr ⟨reported, rfl⟩⟩

theorem notificationExchange_spoke (around : Surroundings) (selection : Selection)
    (operation : String) (body : Json) {desk : Desk} (quiet : Unreported desk.contacts) :
    Spoke selection operation desk (notificationExchange around selection operation body desk) := by
  have spoke : Spoke selection operation desk
      (desk.exchange around selection operation body) := exchange_spoke body quiet
  simp only [notificationExchange]
  generalize desk.exchange around selection operation body = outcome at spoke
  obtain ⟨answer, next⟩ := outcome
  obtain ⟨directory, transactions, answered⟩ := spoke
  refine ⟨directory, transactions, ?_⟩
  rcases answered with ⟨still, unrelated⟩ | ⟨reported, rfl⟩
  · refine Or.inl ⟨still, ?_⟩
    refine Result.FailsOnly.bind unrelated fun response _ => ?_
    split
    · exact .ok _
    · exact .error (by decide)
  · exact Or.inr ⟨reported, rfl⟩

/-- The text authorization may be told of the change, but never passes it on. -/
theorem authorizeWhatsappDelivery_spec (around : Surroundings) (selection : Selection)
    (outbound : OutboundMessage) {desk : Desk} (quiet : Unreported desk.contacts) :
    (HarborBeacon.authorizeWhatsappDelivery around selection outbound desk).2.directory =
        desk.directory ∧
      Result.FailsOnly Unrelated
        (HarborBeacon.authorizeWhatsappDelivery around selection outbound desk).1 ∧
      (Unreported (HarborBeacon.authorizeWhatsappDelivery around selection outbound desk).2.contacts ∨
        Reported selection "deliveryAuthorization"
          (HarborBeacon.authorizeWhatsappDelivery around selection outbound desk).2.contacts ∧
        (HarborBeacon.authorizeWhatsappDelivery around selection outbound desk).1 =
          .error HarborBeacon.denied) := by
  simp only [HarborBeacon.authorizeWhatsappDelivery]
  split
  · rename_i error failed
    refine ⟨rfl, .error ?_, Or.inl quiet⟩
    have denies : Result.FailsOnly Unrelated (HarborBeacon.authorizationRequest outbound) :=
      .bind (require_failsOnly (by decide)) fun _ _ =>
        .bind (require_failsOnly (by decide)) fun _ _ => .ok _
    exact denies error failed
  · rename_i request _
    have spoke : Spoke selection "deliveryAuthorization" desk
        (desk.exchange around selection "deliveryAuthorization" request) := exchange_spoke _ quiet
    generalize desk.exchange around selection "deliveryAuthorization" request = outcome at spoke
    obtain ⟨answer, next⟩ := outcome
    obtain ⟨directory, -, answered⟩ := spoke
    refine ⟨directory, authorizationOutcome_failsOnly around.codec answer, ?_⟩
    rcases answered with ⟨still, -⟩ | ⟨reported, rfl⟩
    · exact Or.inl still
    · exact Or.inr ⟨reported, rfl⟩

end

/-! ## Delivery authorization -/

/-- The selection a message carries, active on some route. -/
structure Held (outbound : OutboundMessage) (directory : Directory) (selection : Selection) :
    Prop where
  claimed : (outbound.metadata.get "navi_selection").bind Selection.ofJson = some selection
  active : ∃ name, activeOf directory name = some selection

theorem Held.of_check {host : FleetHost} {now : Int} {outbound : OutboundMessage}
    {directory : Directory} {selection : Selection}
    (ok : check host now outbound directory = .ok selection) :
    Held outbound directory selection := by
  obtain ⟨routeKey, route, claimed, stored, -, active⟩ := check_ok ok
  exact ⟨(claimedSelection_ok claimed).1, _, (activeOf_of_stored stored).trans active⟩

theorem check_failsOnly (host : FleetHost) (now : Int) (outbound : OutboundMessage)
    (directory : Directory) :
    Result.FailsOnly Unrelated (check host now outbound directory) := by
  have claimed : Result.FailsOnly Unrelated (claimedSelection outbound) :=
    .bind (require_failsOnly (by decide)) fun _ _ =>
      .bind (require_failsOnly (by decide)) fun _ _ =>
        .bind (require_failsOnly (by decide)) fun _ _ => .ok _
  refine .bind claimed fun _ _ => ?_
  refine .bind (require_failsOnly (by decide)) fun _ _ => ?_
  refine .bind (ensure_failsOnly (by decide)) fun _ _ => ?_
  refine .bind (ensure_failsOnly (by decide)) fun _ _ => ?_
  exact .ok _

theorem ask_ends {around : Surroundings} {op : Op} {desk : Desk} {reply : Ans op × Desk}
    (answered : around.respond op desk = some reply) :
    Prog.Ends around.respond (ask op).run desk fun result after =>
      result = .ok reply.1 ∧ after = reply.2 := by
  refine ⟨.ok reply.1, reply.2, ?_, rfl, rfl⟩
  show (around.respond op desk).bind _ = _
  rw [answered]
  rfl

theorem propagate_ends {α : Type} (around : Surroundings) (result : FleetResult α) (desk : Desk) :
    Prog.Ends around.respond (propagate result).run desk fun value after =>
      value = result ∧ after = desk :=
  ⟨result, desk, rfl, rfl, rfl⟩

section

variable (around : Surroundings) (gateway : Gateway) (outbound : OutboundMessage)

theorem fleetCheck_spec (desk : Desk) :
    (desk.fleetCheck around outbound).2.directory = desk.directory ∧
    (desk.fleetCheck around outbound).2.contacts = desk.contacts ∧
    Result.FailsOnly Unrelated (desk.fleetCheck around outbound).1 ∧
    ∀ selection, (desk.fleetCheck around outbound).1 = .ok selection →
      (desk.fleetCheck around outbound).2.client = some selection ∧
      Held outbound desk.directory selection := by
  refine ⟨rfl, rfl, ?_, ?_⟩
  · simp only [Desk.fleetCheck]
    split
    · exact check_failsOnly _ _ _ _
    · exact .error (by decide)
  · intro selection ok
    refine ⟨?_, ?_⟩
    · simp only [Desk.fleetCheck] at ok ⊢
      simp [ok, Except.toOption]
    · simp only [Desk.fleetCheck] at ok
      split at ok
      · exact Held.of_check ok
      · simp at ok

/-- A device client is built from a selection that is active and that the message carries. -/
theorem outboundTaskClient_ends (fleet : gateway.fleet = true)
    (whatsapp : outbound.platform = "whatsapp") (desk : Desk) :
    Prog.Ends around.respond (outboundTaskClient gateway outbound).run desk fun result after =>
      after.directory = desk.directory ∧ after.contacts = desk.contacts ∧
      Result.FailsOnly Unrelated result ∧
      (result = .ok () → ∃ selection, after.client = some selection ∧
        Held outbound desk.directory selection) := by
  obtain ⟨sameDirectory, sameContacts, unrelated, held⟩ := fleetCheck_spec around outbound desk
  simp only [outboundTaskClient, fleet, whatsapp, and_self, if_true]
  refine Prog.Ends.bindExcept (ask_ends rfl) ?_ ?_
  · rintro error after ⟨mismatch, -⟩
    simp at mismatch
  rintro answer after ⟨same, rfl⟩
  obtain rfl := Except.ok.inj same
  refine Prog.Ends.bindExcept (propagate_ends around _ _) ?_ ?_
  · rintro error after ⟨failed, rfl⟩
    exact ⟨sameDirectory, sameContacts, .error (unrelated error failed.symm), by simp⟩
  rintro selection after ⟨ok, rfl⟩
  have client := held selection ok.symm
  refine Prog.Ends.bindExcept (propagate_ends around _ _) ?_ ?_
  · rintro error after ⟨failed, rfl⟩
    refine ⟨sameDirectory, sameContacts, .error ?_, by simp⟩
    exact ensure_failsOnly (by decide) error failed.symm
  rintro ⟨⟩ after ⟨-, rfl⟩
  refine ⟨_, _, rfl, sameDirectory, sameContacts, ?_, fun _ => ⟨selection, client⟩⟩
  exact ensure_failsOnly (by decide)

/-- How an authorization can end: without a report, with one to a camera probe that it passes on,
or with one to the text authorization that it does not. -/
inductive Concluded (outbound : OutboundMessage) (directory : Directory) (result : FleetResult Unit)
    (contacts : List Contact) : Prop
  | quiet : Unreported contacts → Result.FailsOnly Unrelated result →
      Concluded outbound directory result contacts
  | probed (selection : Selection) : Held outbound directory selection →
      Reported selection "mediaArtifact" contacts →
      result = .error CloudRelay.identityChanged →
      Concluded outbound directory result contacts
  | denied (selection : Selection) : Held outbound directory selection →
      Reported selection "deliveryAuthorization" contacts →
      result = .error HarborBeacon.denied →
      Concluded outbound directory result contacts

theorem authorizeCameraDelivery_ends (fleet : gateway.fleet = true)
    (whatsapp : outbound.platform = "whatsapp") (desk : Desk) (quiet : Unreported desk.contacts) :
    Prog.Ends around.respond (authorizeCameraDelivery gateway outbound).run desk
      fun result after => after.directory = desk.directory ∧
        (Unreported after.contacts ∧ Result.FailsOnly Unrelated result ∨
          ∃ selection, Held outbound desk.directory selection ∧
            Reported selection "mediaArtifact" after.contacts ∧
            result = .error CloudRelay.identityChanged) := by
  simp only [authorizeCameraDelivery]
  split
  · exact ⟨_, _, rfl, rfl, Or.inl ⟨quiet, .ok ()⟩⟩
  refine Prog.Ends.bindExcept (outboundTaskClient_ends around gateway outbound fleet whatsapp desk)
    ?_ ?_
  · rintro error after ⟨directory, contacts, unrelated, -⟩
    exact ⟨directory, Or.inl ⟨contacts ▸ quiet, .error (unrelated error rfl)⟩⟩
  rintro ⟨⟩ after ⟨directory, contacts, -, client⟩
  obtain ⟨selection, chosen, held⟩ := client rfl
  have spoke : Spoke selection "mediaArtifact" after
      (HarborBeacon.authorizeCameraAttachments around selection
        (outbound.attachments.filter isCameraArtifact) after) :=
    authorizeCameraAttachments_spoke _ (contacts ▸ quiet)
  have reached : around.respond
      (.authorizeCameraAttachments (outbound.attachments.filter isCameraArtifact)) after =
      some (HarborBeacon.authorizeCameraAttachments around selection
        (outbound.attachments.filter isCameraArtifact) after) := by
    simp [Surroundings.respond, chosen]
  refine Prog.Ends.bindExcept (ask_ends reached) ?_ ?_
  · rintro error after ⟨mismatch, -⟩
    simp at mismatch
  rintro answer last ⟨same, rfl⟩
  obtain rfl := Except.ok.inj same
  refine ⟨_, _, rfl, spoke.directory.trans directory, ?_⟩
  rcases spoke.answered with answered | reported
  · exact Or.inl answered
  · exact Or.inr ⟨selection, held, reported⟩

theorem authorizeDelivery_ends (fleet : gateway.fleet = true)
    (whatsapp : outbound.platform = "whatsapp") (desk : Desk) (quiet : Unreported desk.contacts) :
    Prog.Ends around.respond (authorizeDelivery gateway outbound).run desk fun result after =>
      after.directory = desk.directory ∧
        Concluded outbound desk.directory result after.contacts := by
  simp only [authorizeDelivery]
  refine Prog.Ends.bindExcept
    (authorizeCameraDelivery_ends around gateway outbound fleet whatsapp desk quiet) ?_ ?_
  · rintro error after ⟨directory, ⟨still, unrelated⟩ | ⟨selection, held, reported, failed⟩⟩
    · exact ⟨directory, .quiet still (.error (unrelated error rfl))⟩
    · exact ⟨directory, .probed selection held reported
        (congrArg Except.error (Except.error.inj failed))⟩
  rintro ⟨⟩ probed ⟨directory, ⟨still, -⟩ | ⟨_, -, -, mismatch⟩⟩
  swap
  · simp at mismatch
  simp only [whatsapp, if_true]
  refine Prog.Ends.bindExcept
    (outboundTaskClient_ends around gateway outbound fleet whatsapp probed) ?_ ?_
  · rintro error after ⟨same, contacts, unrelated, -⟩
    exact ⟨same.trans directory, .quiet (contacts ▸ still) (.error (unrelated error rfl))⟩
  rintro ⟨⟩ checked ⟨same, contacts, -, client⟩
  obtain ⟨selection, chosen, held⟩ := client rfl
  have asked := authorizeWhatsappDelivery_spec around selection outbound
    (contacts ▸ still : Unreported checked.contacts)
  have reached : around.respond (.authorizeWhatsappDelivery outbound) checked =
      some (HarborBeacon.authorizeWhatsappDelivery around selection outbound checked) := by
    simp [Surroundings.respond, chosen]
  refine Prog.Ends.bindExcept (ask_ends reached) ?_ ?_
  · rintro error after ⟨mismatch, -⟩
    simp at mismatch
  rintro answer last ⟨equal, rfl⟩
  obtain rfl := Except.ok.inj equal
  generalize HarborBeacon.authorizeWhatsappDelivery around selection outbound checked = outcome at *
  obtain ⟨result, last⟩ := outcome
  obtain ⟨lastDirectory, unrelated, answered⟩ := asked
  have unchanged : last.directory = desk.directory := lastDirectory.trans (same.trans directory)
  refine Prog.Ends.bindExcept (propagate_ends around _ _) ?_ ?_
  · rintro error after ⟨failed, rfl⟩
    refine ⟨unchanged, ?_⟩
    rcases answered with silent | ⟨reported, denied⟩
    · exact .quiet silent (.error (unrelated error failed.symm))
    · rw [← directory]
      exact .denied selection held reported (failed.trans denied)
  rintro ⟨⟩ after ⟨ok, rfl⟩
  have silent : Unreported after.contacts := by
    rcases answered with silent | ⟨-, denied⟩
    · exact silent
    · exact absurd (ok.trans denied) (by simp)
  -- The final check of the selection contacts nobody.
  obtain ⟨checkDirectory, checkContacts, checkUnrelated, -⟩ :=
    fleetCheck_spec around outbound after
  simp only [checkSelection, fleet, if_true]
  refine Prog.Ends.bindExcept (ask_ends rfl) ?_ ?_
  · rintro error after ⟨mismatch, -⟩
    simp at mismatch
  rintro answer final ⟨equal, rfl⟩
  obtain rfl := Except.ok.inj equal
  refine Prog.Ends.bindExcept (propagate_ends around _ _) ?_ ?_
  · rintro error final ⟨failed, rfl⟩
    exact ⟨checkDirectory.trans unchanged,
      .quiet (checkContacts ▸ silent) (.error (checkUnrelated error failed.symm))⟩
  · rintro checkedSelection final ⟨-, rfl⟩
    exact ⟨_, _, rfl, checkDirectory.trans unchanged, .quiet (checkContacts ▸ silent) (.ok ())⟩

end

theorem Contact.cleared_of_invalidated {contact : Contact} {selection : Selection}
    (hub : contact.hubId = selection.hubId) (identity : contact.hubIdentity = selection.hubIdentity)
    (directory : Directory) : contact.Cleared (invalidateIdentity selection directory) := by
  rintro name other active ⟨sameHub, sameIdentity⟩
  rw [invalidateIdentity_active, Option.filter_eq_some_iff] at active
  simp [Selection.matches, sameHub, sameIdentity, hub, identity] at active

theorem Contact.not_cleared {contact : Contact} {selection : Selection} {directory : Directory}
    {name : String} (hub : contact.hubId = selection.hubId)
    (identity : contact.hubIdentity = selection.hubIdentity)
    (active : activeOf directory name = some selection) : ¬contact.Cleared directory :=
  fun cleared => cleared name selection active ⟨hub.symm, identity.symm⟩

/-- Without a report both sides of the equivalences below hold. -/
theorem Unreported.vacuous {contacts : List Contact} (quiet : Unreported contacts)
    (P : Contact → Prop) : ∀ contact ∈ contacts, contact.changed → P contact :=
  fun contact member changed => absurd changed (quiet contact member)

/-- The clean-up after a report: the selection is cleared exactly when it was stored. -/
theorem fleetInvalidateIdentity_clears_iff (around : Surroundings) {selection : Selection}
    {operation name : String} {desk : Desk} (reported : Reported selection operation desk.contacts)
    (active : activeOf desk.directory name = some selection) :
    (∀ contact ∈ desk.contacts, contact.changed →
      contact.Cleared (desk.fleetInvalidateIdentity around selection).2.directory) ↔
    around.stored desk.transactions = true := by
  obtain ⟨contact, member, changed⟩ := reported.reported
  obtain ⟨hub, identity, -⟩ := reported.only contact member changed
  simp only [Desk.fleetInvalidateIdentity]
  split
  · rename_i stored
    simp only [stored, iff_true]
    intro other present report
    obtain ⟨sameHub, sameIdentity, -⟩ := reported.only other present report
    exact Contact.cleared_of_invalidated sameHub sameIdentity desk.directory
  · rename_i lost
    refine iff_of_false ?_ lost
    intro all
    exact Contact.not_cleared hub identity active (all contact member changed)

theorem fleetInvalidateIdentity_frame (around : Surroundings) (selection : Selection)
    (desk : Desk) :
    (desk.fleetInvalidateIdentity around selection).2.contacts = desk.contacts ∧
    (desk.fleetInvalidateIdentity around selection).2.transactions = desk.transactions + 1 := by
  simp only [Desk.fleetInvalidateIdentity]
  split
  · exact ⟨rfl, rfl⟩
  · exact ⟨rfl, rfl⟩

/-- The property of one operation: whatever device the relay reported has no selection left. -/
def ClearsReported (after : Desk) : Prop :=
  ∀ contact ∈ after.contacts, contact.changed → contact.Cleared after.directory

/-- Every report went to `operation`, and the transaction made last was stored. -/
def ReportsStored (around : Surroundings) (operation : String) (after : Desk) : Prop :=
  ∀ contact ∈ after.contacts, contact.changed →
    contact.operation = operation ∧ around.stored (after.transactions - 1) = true

theorem ReportsStored.iff_stored {around : Surroundings} {selection : Selection}
    {operation : String} {after : Desk} (reported : Reported selection operation after.contacts) :
    ReportsStored around operation after ↔ around.stored (after.transactions - 1) = true := by
  constructor
  · intro all
    obtain ⟨contact, member, changed⟩ := reported.reported
    exact (all contact member changed).2
  · intro stored contact member changed
    exact ⟨(reported.only contact member changed).2.2, stored⟩

theorem Unreported.clears_iff {around : Surroundings} {operation : String} {after : Desk}
    (quiet : Unreported after.contacts) :
    ClearsReported after ↔ ReportsStored around operation after :=
  ⟨fun _ => quiet.vacuous _, fun _ => quiet.vacuous _⟩

/-- The clean-up of the selection that was reported, seen from the whole operation. -/
theorem Reported.clears_iff (around : Surroundings) {selection : Selection}
    {operation name : String} {desk : Desk} (reported : Reported selection operation desk.contacts)
    (active : activeOf desk.directory name = some selection) :
    ClearsReported (desk.fleetInvalidateIdentity around selection).2 ↔
      ReportsStored around operation (desk.fleetInvalidateIdentity around selection).2 := by
  obtain ⟨sameContacts, count⟩ := fleetInvalidateIdentity_frame around selection desk
  rw [ReportsStored.iff_stored (sameContacts ▸ reported), count, Nat.add_sub_cancel,
    ← fleetInvalidateIdentity_clears_iff around reported active]
  simp only [ClearsReported, sameContacts]

theorem authorizeDeliveryContext_ends (around : Surroundings) (gateway : Gateway)
    (outbound : OutboundMessage) (fleet : gateway.fleet = true)
    (whatsapp : outbound.platform = "whatsapp") (desk : Desk) (quiet : Unreported desk.contacts) :
    Prog.Ends around.respond (authorizeDeliveryContext gateway outbound).run desk fun _ after =>
      ClearsReported after ↔ ReportsStored around "mediaArtifact" after := by
  simp only [authorizeDeliveryContext]
  have attempted : Prog.Ends around.respond (attempt (authorizeDelivery gateway outbound)).run desk
      fun result after => ∃ inner, result = .ok inner ∧ after.directory = desk.directory ∧
        Concluded outbound desk.directory inner after.contacts := by
    refine Prog.Ends.bind
      (authorizeDelivery_ends around gateway outbound fleet whatsapp desk quiet) ?_
    rintro inner after ⟨directory, concluded⟩
    exact ⟨.ok inner, after, rfl, inner, rfl, directory, concluded⟩
  refine Prog.Ends.bindExcept attempted ?_ ?_
  · rintro error after ⟨_, mismatch, -⟩
    simp at mismatch
  rintro result after ⟨_, same, directory, concluded⟩
  obtain rfl := Except.ok.inj same
  cases concluded with
  | quiet still unrelated =>
      have holds : ClearsReported after ↔ ReportsStored around "mediaArtifact" after :=
        still.clears_iff
      cases result with
      | ok _ => exact ⟨_, _, rfl, holds⟩
      | error error =>
          have other : ¬error.code = "NAVI_IDENTITY_CHANGED" := unrelated error rfl
          simp only [other, false_and, if_false]
          exact ⟨_, _, rfl, holds⟩
  | denied selection held reported failed =>
      subst failed
      obtain ⟨name, active⟩ := held.active
      obtain ⟨contact, member, changed⟩ := reported.reported
      obtain ⟨hub, identity, operation⟩ := reported.only contact member changed
      refine ⟨_, _, rfl, iff_of_false ?_ ?_⟩
      · intro all
        rw [← directory] at active
        exact Contact.not_cleared hub identity active (all contact member changed)
      · intro all
        have wrong := (all contact member changed).1
        rw [operation] at wrong
        exact absurd wrong (by decide)
  | probed selection held reported failed =>
      subst failed
      obtain ⟨name, active⟩ := held.active
      rw [← directory] at active
      have holds := reported.clears_iff around active
      simp only [CloudRelay.identityChanged, GatewayError.new, fleet, and_self, if_true,
        held.claimed]
      refine Prog.Ends.bindExcept (ask_ends rfl) ?_ ?_
      · rintro error last ⟨mismatch, -⟩
        simp at mismatch
      rintro answer last ⟨equal, rfl⟩
      refine Prog.Ends.bindExcept (propagate_ends around _ _) ?_ ?_
      · rintro error last ⟨-, rfl⟩
        exact holds
      · rintro ⟨⟩ last ⟨-, rfl⟩
        exact ⟨_, _, rfl, holds⟩

/-! ## The notification poll -/

theorem pullNotifications_clears_iff (around : Surroundings) (directory : Directory) :
    ClearsReported (pullNotifications around (Desk.opened directory)).2 ↔
      ReportsStored around "notificationOutbox"
        (pullNotifications around (Desk.opened directory)).2 := by
  have none_made : Unreported [] := by simp [Unreported]
  simp only [pullNotifications]
  split
  · exact none_made.clears_iff
  · exact none_made.clears_iff
  rename_i selection scope next target
  split
  · -- The target is active, and taking it changes no selection.
    obtain ⟨name, active⟩ : ∃ name, activeOf next name = some selection := by
      split at target
      · obtain ⟨kept, chosen⟩ := notificationTarget_ok target
        obtain ⟨name, route, stored, active, -, -⟩ := chosen selection scope rfl
        exact ⟨name, (kept name).trans ((activeOf_of_stored stored).trans active)⟩
      · simp at target
    have spoke : Spoke selection "notificationOutbox" ⟨next, 1, none, []⟩
        (notificationExchange around selection "notificationOutbox" scope ⟨next, 1, none, []⟩) :=
      notificationExchange_spoke around selection _ scope none_made
    split
    · rename_i batch last answer
      have spoken : Spoke selection "notificationOutbox" ⟨next, 1, none, []⟩ (.ok batch, last) :=
        answer ▸ spoke
      rcases spoken.answered with ⟨quiet, -⟩ | ⟨-, mismatch⟩
      · exact quiet.clears_iff
      · simp at mismatch
    · rename_i error last answer
      have spoken : Spoke selection "notificationOutbox" ⟨next, 1, none, []⟩
          ((.error error : FleetResult Json), last) := answer ▸ spoke
      rcases spoken.answered with ⟨quiet, unrelated⟩ | ⟨reported, failed⟩
      · have other : ¬error.code = "NAVI_IDENTITY_CHANGED" := unrelated error rfl
        rw [if_neg other]
        exact quiet.clears_iff
      · have code : error.code = "NAVI_IDENTITY_CHANGED" := by
          rw [Except.error.inj failed]
          rfl
        have here : activeOf last.directory name = some selection := by
          rw [spoken.directory]
          exact active
        have holds := reported.clears_iff around here
        rw [if_pos code]
        split
        · rename_i result
          rw [result] at holds
          exact holds
        · rename_i result
          rw [result] at holds
          exact holds
  · exact none_made.clears_iff

theorem acknowledgeNotification_clears_iff (around : Surroundings) (selection : Selection)
    (scope : JsonMap) (queueId receipt : Json) (directory : Directory) :
    ClearsReported
        (acknowledgeNotification around selection scope queueId receipt (Desk.opened directory)).2 ↔
      ∀ contact ∈ (acknowledgeNotification around selection scope queueId receipt
          (Desk.opened directory)).2.contacts,
        contact.changed → contact.Cleared directory := by
  have unchanged : (acknowledgeNotification around selection scope queueId receipt
      (Desk.opened directory)).2.directory = directory := by
    have spoke := notificationExchange_spoke around selection "notificationReceipt"
      (.obj ((scope.insert "queue_id" queueId).insert "receipt" receipt))
      (by simp [Unreported, Desk.opened] : Unreported (Desk.opened directory).contacts)
    simp only [acknowledgeNotification]
    split
    · rename_i same
      rw [same] at spoke
      exact spoke.directory
    · rename_i same
      rw [same] at spoke
      split
      · exact spoke.directory
      · exact spoke.directory
  simp only [ClearsReported, unchanged]

theorem identity_change_clears_iff (around : Surroundings) (gateway : Gateway)
    (outbound : OutboundMessage) (directory : Directory) (fleet : gateway.fleet = true)
    (whatsapp : outbound.platform = "whatsapp") :
    (∃ result after, (authorizeDeliveryContext gateway outbound).run.eval around.respond
        (Desk.opened directory) = some (result, after) ∧
      (ClearsReported after ↔ ReportsStored around "mediaArtifact" after)) ∧
    (ClearsReported (pullNotifications around (Desk.opened directory)).2 ↔
      ReportsStored around "notificationOutbox"
        (pullNotifications around (Desk.opened directory)).2) ∧
    ∀ selection scope queueId receipt,
      ClearsReported (acknowledgeNotification around selection scope queueId receipt
        (Desk.opened directory)).2 ↔
      ∀ contact ∈ (acknowledgeNotification around selection scope queueId receipt
          (Desk.opened directory)).2.contacts,
        contact.changed → contact.Cleared directory := by
  refine ⟨?_, pullNotifications_clears_iff around directory, ?_⟩
  · exact authorizeDeliveryContext_ends around gateway outbound fleet whatsapp _
      (by simp [Unreported, Desk.opened])
  · intro selection scope queueId receipt
    exact acknowledgeNotification_clears_iff around selection scope queueId receipt directory

/-! ## A reply after the device was reset -/

/-- The relay answers every exchange with `HUB_IDENTITY_CHANGED`. -/
def resetDevice : Surroundings where
  host := phoneHost
  codec :=
    { fits := fun _ => true
      encodedLen := fun _ => 512
      media := fun _ => none }
  now := fun _ => 1790000120
  stored := fun _ => true
  requestId := fun _ => "gate_0"
  replies := fun _ => [.answered 409
    (some (.obj [("error", .obj [("code", .str "HUB_IDENTITY_CHANGED")])])) 1790000120000]

def fleetGateway : Gateway where
  instanceId := "gate-1"
  adapters := []
  fleet := true
  taskClient := false

def phoneReply (attachments : List Json) : OutboundMessage :=
  { staleReply with
    attachments := attachments
    metadata := staleReply.metadata.insert "conversation_handle" (.str "conv-1") }

def cameraStill : Json :=
  .obj [("mime_type", .str "image/jpeg"),
    ("url", .str "/api/cameras/recordings/artifacts/still-1")]

/-- The directory after `phoneBinding`, its update acknowledged. -/
def boundDirectory : Directory :=
  (∅ : Directory).insert (phoneHost.key "15551234567" "route-1")
    { Route.default with
      active := some boundSelection
      newestProofAt := 1790000000
      recipient := "15551234567"
      routeKey := "route-1"
      revision := 1 }

theorem reset_device_is_cleared_by_a_probe :
    fleetGateway.fleet = true ∧ (phoneReply [cameraStill]).platform = "whatsapp" ∧
    ∃ result after,
      (authorizeDeliveryContext fleetGateway (phoneReply [cameraStill])).run.eval
        resetDevice.respond (Desk.opened boundDirectory) = some (result, after) ∧
      (ClearsReported after ↔ ReportsStored resetDevice "mediaArtifact" after) :=
  ⟨rfl, rfl, (identity_change_clears_iff resetDevice fleetGateway (phoneReply [cameraStill])
    boundDirectory rfl rfl).1⟩

def Contact.reportedChange (contact : Contact) : Bool :=
  match contact.answer with
  | .error error => error == CloudRelay.identityChanged
  | .ok _ => false

theorem text_denial_keeps_the_selection :
    ∃ result after,
      (authorizeDeliveryContext fleetGateway (phoneReply [])).run.eval resetDevice.respond
        (Desk.opened boundDirectory) = some (result, after) ∧ ¬ClearsReported after := by
  have evaluated : ((authorizeDeliveryContext fleetGateway (phoneReply [])).run.eval
      resetDevice.respond (Desk.opened boundDirectory)).map (fun outcome =>
        (outcome.2.contacts.map fun contact =>
          (contact.hubId, contact.hubIdentity, contact.reportedChange),
        activeOf outcome.2.directory (phoneHost.key "15551234567" "route-1"))) =
      some ([(boundSelection.hubId, boundSelection.hubIdentity, true)], some boundSelection) := by
    decide
  obtain ⟨⟨result, after⟩, done, same⟩ := Option.map_eq_some_iff.mp evaluated
  simp only [Prod.mk.injEq] at same
  obtain ⟨made, active⟩ := same
  refine ⟨result, after, done, fun all => ?_⟩
  have listed : (boundSelection.hubId, boundSelection.hubIdentity, true) ∈
      after.contacts.map fun contact =>
        (contact.hubId, contact.hubIdentity, contact.reportedChange) := by
    rw [made]
    exact List.mem_cons_self
  obtain ⟨contact, member, fields⟩ := List.mem_map.mp listed
  simp only [Prod.mk.injEq] at fields
  obtain ⟨hub, identity, reported⟩ := fields
  have changed : contact.changed := by
    simp only [Contact.reportedChange] at reported
    split at reported
    · rename_i error failed
      rw [Contact.changed, failed, eq_of_beq reported]
    · simp at reported
  exact Contact.not_cleared hub identity active (all contact member changed)

end HarborGate
