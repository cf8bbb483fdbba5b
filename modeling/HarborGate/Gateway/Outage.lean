import HarborGate.Gateway.Authority

/-!
What the ledger is told when an authorization fails: `map_delivery_failure` sorts the failure by
the words of its message, so each message of `harborbeacon.rs` has to land in the class of what
the authority said.
-/

namespace HarborGate

open Interleave NaviFleet

/-- The delivery that failed so is not tried again. -/
def EndsDelivery (error : GatewayError) : Prop :=
  (mapDeliveryFailure error.message).2 = false

instance (error : GatewayError) : Decidable (EndsDelivery error) :=
  inferInstanceAs (Decidable ((mapDeliveryFailure error.message).2 = false))

/-! ## The errors of an exchange -/

/-- A failure that is retried and triggers no clean-up. -/
structure Transient (error : GatewayError) : Prop where
  retried : ¬EndsDelivery error
  unrelated : Unrelated error
  plain : shouldFallbackToFile error = false

def untrustedUrl : GatewayError :=
  GatewayError.validation "Camera attachment URL is not trusted"

def untrustedMime : GatewayError :=
  GatewayError.validation "Camera attachment MIME type is not trusted"

theorem passing_errors :
    ∀ error ∈ [CloudRelay.unavailable, CloudRelay.invalidResponse, CloudRelay.invalid,
        HarborBeacon.invalidMedia, untrustedUrl, untrustedMime, HarborBeacon.unavailable],
      ¬EndsDelivery error ∧ Unrelated error ∧ shouldFallbackToFile error = false := by
  decide

-- The word "authorization" puts both outages of the HTTP camera check among the refusals.
theorem ending_errors :
    ∀ error ∈ [CloudRelay.identityChanged, HarborBeacon.mediaRevoked, HarborBeacon.denied,
        HarborBeacon.mediaUnavailable, HarborBeacon.mediaTokenMissing], EndsDelivery error := by
  decide

theorem transient_of_passing {error : GatewayError}
    (passing : ¬EndsDelivery error ∧ Unrelated error ∧ shouldFallbackToFile error = false) :
    Transient error :=
  ⟨passing.1, passing.2.1, passing.2.2⟩

theorem transient_unavailable : Transient CloudRelay.unavailable :=
  transient_of_passing (passing_errors _ (by simp))

theorem transient_invalidResponse : Transient CloudRelay.invalidResponse :=
  transient_of_passing (passing_errors _ (by simp))

theorem transient_invalid : Transient CloudRelay.invalid :=
  transient_of_passing (passing_errors _ (by simp))

theorem transient_invalidMedia : Transient HarborBeacon.invalidMedia :=
  transient_of_passing (passing_errors _ (by simp))

theorem transient_untrustedUrl : Transient untrustedUrl :=
  transient_of_passing (passing_errors _ (by simp))

theorem transient_untrustedMime : Transient untrustedMime :=
  transient_of_passing (passing_errors _ (by simp))

theorem transient_unchecked : Transient HarborBeacon.unavailable :=
  transient_of_passing (passing_errors _ (by simp))

theorem identityChanged_ends : EndsDelivery CloudRelay.identityChanged :=
  ending_errors _ (by simp)

theorem mediaRevoked_ends : EndsDelivery HarborBeacon.mediaRevoked :=
  ending_errors _ (by simp)

theorem denied_ends : EndsDelivery HarborBeacon.denied :=
  ending_errors _ (by simp)

theorem mediaUnavailable_ends : EndsDelivery HarborBeacon.mediaUnavailable :=
  ending_errors _ (by simp)

theorem mediaTokenMissing_ends : EndsDelivery HarborBeacon.mediaTokenMissing :=
  ending_errors _ (by simp)

/-- An error of `exchange`: passing, or the report of a changed identity. -/
def ExchangeError (error : GatewayError) : Prop :=
  Transient error ∨ error = CloudRelay.identityChanged

theorem readBody_failsOnly {broken tooLong : GatewayError} {limit : Nat}
    {allowed : GatewayError → Prop} (breaks : allowed broken) (exceeds : allowed tooLong)
    (chunks : List (Option (List UInt8))) : ∀ body,
      Result.FailsOnly allowed (readBody broken tooLong limit body chunks) := by
  induction chunks with
  | nil => exact fun body => .ok body
  | cons chunk rest ih =>
      intro body
      cases chunk with
      | none => exact .error breaks
      | some bytes =>
          simp only [readBody]
          split
          · exact .error exceeds
          · exact ih _

theorem request_failsOnly (reply : HttpReply) :
    Result.FailsOnly Transient (CloudRelay.request reply) := by
  cases reply with
  | failed => exact .error transient_unavailable
  | answered status contentLength chunks =>
      simp only [CloudRelay.request]
      split
      · exact .error transient_invalidResponse
      split
      · exact .ok _
      · intro error failed
        cases read : readBody CloudRelay.unavailable CloudRelay.invalidResponse
            CloudRelay.maxResponse [] chunks with
        | ok bytes =>
            rw [read] at failed
            simp [Except.map] at failed
        | error reason =>
            rw [read] at failed
            obtain rfl : reason = error := Except.error.inj failed
            exact readBody_failsOnly transient_unavailable transient_invalidResponse chunks []
              reason read

theorem exchange_failsOnly (around : Surroundings) (parse : List UInt8 → Option Json)
    (line : Nat → List (HttpReply × Int)) (selection : Selection) (operation : String)
    (body : Json) (desk : Desk) :
    Result.FailsOnly ExchangeError
      (desk.exchange (around.online parse line) selection operation body).1 := by
  simp only [Desk.exchange]
  split
  · refine exchangeLoop_fails (Or.inl transient_unavailable) (Or.inr rfl) _ ?_ _ _
    intro error member _
    simp only [Surroundings.online, List.mem_map, Prod.exists] at member
    obtain ⟨reply, now, -, same⟩ := member
    simp only [RelayReply.ofHttp] at same
    split at same
    · rename_i reason failed
      obtain rfl := RelayReply.failed.inj same
      exact Or.inl (request_failsOnly reply reason failed)
    · simp at same
  · exact .error (Or.inl transient_invalid)

/-! ## One attachment -/

theorem ensure_error {condition : Prop} [Decidable condition] {reason error : GatewayError} :
    ensure condition reason = .error error ↔ ¬condition ∧ reason = error := by
  simp only [ensure]
  split
  · rename_i holds
    simp [holds]
  · rename_i fails
    simp [fails]

/-- A probe ends with the error of its exchange, or sorts the answer by the attachment's type and
the status. -/
theorem probeOutcome_error {codec : CloudRelay.Codec} {artifact : Json}
    {answer : FleetResult RelayResponse} {error : GatewayError}
    (failed : HarborBeacon.probeOutcome codec artifact answer = .error error) :
    answer = .error error ∨ ∃ response, answer = .ok response ∧
      ((artifact.index "mime_type").asStr.any HarborBeacon.trustedAttachmentMime = false ∧
          Transient error ∨
        (artifact.index "mime_type").asStr.any HarborBeacon.trustedAttachmentMime = true ∧
          (relayDeniesMedia (.ok response) ∧ error = HarborBeacon.mediaRevoked ∨
            ¬relayDeniesMedia (.ok response) ∧ Transient error)) := by
  cases answer with
  | error reason =>
      obtain rfl : reason = error := Except.error.inj failed
      exact Or.inl rfl
  | ok response =>
      refine Or.inr ⟨response, rfl, ?_⟩
      have opened : (require ((artifact.index "mime_type").asStr.filter
          HarborBeacon.trustedAttachmentMime)
          (GatewayError.validation "Camera attachment MIME type is not trusted") >>= fun mime =>
            HarborBeacon.decodeProbe codec mime response) = .error error := failed
      cases typed : (artifact.index "mime_type").asStr.filter
          HarborBeacon.trustedAttachmentMime with
      | none =>
          rw [typed] at opened
          obtain rfl := Except.error.inj opened
          refine Or.inl ⟨?_, transient_untrustedMime⟩
          rw [Option.any_eq_false]
          intro mime named
          simpa using Option.filter_eq_none_iff.mp typed mime named
      | some mime =>
          rw [typed] at opened
          have trusted := Option.filter_eq_some_iff.mp typed
          refine Or.inr ⟨by simp [trusted.1, trusted.2], ?_⟩
          by_cases denied : response.status ∈ [400, 401, 403, 404, 410, 416]
          · refine Or.inl ⟨denied, ?_⟩
            have refused : HarborBeacon.decodeProbe codec mime response =
                .error HarborBeacon.mediaRevoked := by
              simp only [HarborBeacon.decodeProbe, ensure, denied, not_true_eq_false, if_false]
              rfl
            exact (Except.error.inj (refused.symm.trans opened)).symm
          · refine Or.inr ⟨denied, ?_⟩
            have media := transient_invalidMedia
            have rest : Result.FailsOnly Transient
                (HarborBeacon.decodeProbe codec mime response) := by
              refine .bind ?_ fun _ _ => ?_
              · intro reason refused
                exact absurd denied (ensure_error.mp refused).1
              refine .bind (ensure_failsOnly media) fun _ _ => ?_
              refine .bind (require_failsOnly media) fun _ _ => ?_
              refine .bind (ensure_failsOnly media) fun _ _ => ?_
              refine .bind (require_failsOnly media) fun _ _ => ?_
              refine .bind (require_failsOnly media) fun _ _ => ?_
              exact ensure_failsOnly media
            exact rest error opened

/-! ## Whole exchanges -/

/-- Where a camera check over the relay ends, and that its error is that of the last probe. -/
theorem authorizeCameraAttachments_error (around : Surroundings)
    (parse : List UInt8 → Option Json) (line : Nat → List (HttpReply × Int))
    (selection : Selection) {error : GatewayError} (artifacts : List Json) : ∀ (desk : Desk),
      (HarborBeacon.authorizeCameraAttachments (around.online parse line) selection artifacts
        desk).1 = .error error →
      HarborBeacon.relayStop (around.online parse line) selection artifacts desk = none ∧
          Transient error ∨
        ∃ artifact answer,
          HarborBeacon.relayStop (around.online parse line) selection artifacts desk =
            some (artifact, answer) ∧
          Result.FailsOnly ExchangeError answer ∧
          HarborBeacon.probeOutcome around.codec artifact answer = .error error := by
  induction artifacts with
  | nil =>
      intro desk failed
      simp [HarborBeacon.authorizeCameraAttachments] at failed
  | cons artifact rest ih =>
      intro desk failed
      simp only [HarborBeacon.authorizeCameraAttachments] at failed
      simp only [HarborBeacon.relayStop]
      cases named : (artifact.index "url").asStr.bind HarborBeacon.remoteMediaArtifactId with
      | none =>
          rw [named] at failed
          obtain rfl := Except.error.inj failed
          exact Or.inl ⟨rfl, transient_untrustedUrl⟩
      | some id =>
          rw [named] at failed
          dsimp only [Option.bind_some] at failed ⊢
          have only := exchange_failsOnly around parse line selection "mediaArtifact"
            (.obj [("artifact_id", .str id), ("range", .str "bytes=0-0")]) desk
          generalize desk.exchange (around.online parse line) selection "mediaArtifact"
            (.obj [("artifact_id", .str id), ("range", .str "bytes=0-0")]) = outcome
            at failed only ⊢
          obtain ⟨answer, next⟩ := outcome
          dsimp only at failed ⊢
          cases probed : HarborBeacon.probeOutcome (around.online parse line).codec artifact
              answer with
          | error reason =>
              rw [probed] at failed
              obtain rfl := Except.error.inj failed
              exact Or.inr ⟨artifact, answer, rfl, only, probed⟩
          | ok granted =>
              rw [probed] at failed
              exact ih next failed

/-- Where a camera check over HTTP ends. -/
theorem authorizeCamerasDirectly_error (client : DirectClient) {error : GatewayError}
    (artifacts : List Json) : ∀ (asked : Nat),
      HarborBeacon.authorizeCamerasDirectly client artifacts asked = .error error →
      ∃ stop, HarborBeacon.directStop client artifacts asked = some stop ∧
        (stop = .untrusted ∧ Transient error ∨
          stop.isOutage = true ∧ (error = HarborBeacon.mediaTokenMissing ∨
            error = HarborBeacon.mediaUnavailable) ∨
          ∃ reply, stop = .replied reply ∧ reply.deniesMedia = true ∧
            error = HarborBeacon.mediaRevoked) := by
  induction artifacts with
  | nil =>
      intro asked failed
      simp [HarborBeacon.authorizeCamerasDirectly] at failed
  | cons artifact rest ih =>
      intro asked failed
      simp only [HarborBeacon.authorizeCamerasDirectly] at failed
      simp only [HarborBeacon.directStop]
      cases named : (artifact.index "url").asStr with
      | none =>
          rw [named] at failed
          exact ih asked failed
      | some raw =>
          rw [named] at failed
          dsimp only at failed ⊢
          by_cases trusted : client.trusted raw = true
          · simp only [trusted, Bool.not_true, Bool.false_eq_true, if_false] at failed ⊢
            by_cases token : Text.isBlank client.apiToken = true
            · simp only [token, if_true, Except.error.injEq] at failed ⊢
              exact ⟨.noToken, rfl, Or.inr (Or.inl ⟨rfl, Or.inl failed.symm⟩)⟩
            · simp only [token, Bool.false_eq_true, if_false] at failed ⊢
              cases replied : client.replies asked with
              | failed =>
                  rw [replied] at failed
                  have unavailable := Except.error.inj failed
                  exact ⟨_, rfl, Or.inr (Or.inl ⟨rfl, Or.inr unavailable.symm⟩)⟩
              | answered status contentLength chunks =>
                  rw [replied] at failed
                  dsimp only at failed ⊢
                  by_cases granted : 200 ≤ status ∧ status < 300
                  · rw [if_pos granted] at failed ⊢
                    exact ih (asked + 1) failed
                  · rw [if_neg granted] at failed ⊢
                    refine ⟨_, rfl, Or.inr ?_⟩
                    by_cases denied : status ∈ [401, 403, 404, 410]
                    · rw [if_pos denied] at failed
                      exact Or.inr ⟨_, rfl, by simpa [HttpReply.deniesMedia] using denied,
                        (Except.error.inj failed).symm⟩
                    · rw [if_neg denied] at failed
                      refine Or.inl ⟨?_, Or.inr (Except.error.inj failed).symm⟩
                      simpa [HarborBeacon.DirectStop.isOutage, HttpReply.deniesMedia] using denied
          · simp only [trusted, Bool.not_false, if_true, Except.error.injEq] at failed ⊢
            subst failed
            exact ⟨.untrusted, rfl, Or.inl ⟨rfl, transient_untrustedUrl⟩⟩

theorem authorizationOutcome_error {codec : CloudRelay.Codec} {answer : FleetResult RelayResponse}
    {error : GatewayError} (failed : HarborBeacon.authorizationOutcome codec answer = .error error) :
    relayDeniesDelivery codec answer ∧ error = HarborBeacon.denied ∨
      ¬relayDeniesDelivery codec answer ∧ error = HarborBeacon.unavailable := by
  simp only [HarborBeacon.authorizationOutcome] at failed
  cases answer with
  | error reason =>
      dsimp only at failed
      split at failed
      · rename_i changed
        exact Or.inl ⟨Or.inl changed, (Except.error.inj failed).symm⟩
      · rename_i other
        refine Or.inr ⟨?_, (Except.error.inj failed).symm⟩
        rintro (changed | ⟨response, mismatch, -⟩)
        · exact other changed
        · simp at mismatch
  | ok response =>
      dsimp only at failed
      split at failed
      · rename_i refused
        exact Or.inl ⟨Or.inl refused, (Except.error.inj failed).symm⟩
      rename_i unrefused
      split at failed
      · rename_i unread
        refine Or.inr ⟨?_, (Except.error.inj failed).symm⟩
        rintro (refused | ⟨_, same, status, length, -⟩)
        · exact unrefused refused
        · obtain rfl := Except.ok.inj same
          omega
      rename_i read
      split at failed
      · rename_i disallowed
        refine Or.inl ⟨Or.inr ⟨response, rfl, ?_, ?_, disallowed⟩, (Except.error.inj failed).symm⟩
        · omega
        · omega
      · simp at failed

theorem authorizeWhatsappDirectly_error {client : DirectClient} {outbound : OutboundMessage}
    {request : Json} {error : GatewayError}
    (asked : HarborBeacon.authorizationRequest outbound = .ok request)
    (failed : HarborBeacon.authorizeWhatsappDirectly client outbound = .error error) :
    (client.replies 0).deniesDelivery client.parse ∧ error = HarborBeacon.denied ∨
      ¬(client.replies 0).deniesDelivery client.parse ∧ error = HarborBeacon.unavailable := by
  simp only [HarborBeacon.authorizeWhatsappDirectly, asked, bind, Except.bind] at failed
  cases replied : client.replies 0 with
  | failed =>
      rw [replied] at failed
      exact Or.inr ⟨id, (Except.error.inj failed).symm⟩
  | answered status contentLength chunks =>
      rw [replied] at failed
      dsimp only at failed
      simp only [HttpReply.deniesDelivery]
      split at failed
      · rename_i refused
        exact Or.inl ⟨Or.inl refused, (Except.error.inj failed).symm⟩
      rename_i unrefused
      split at failed
      · rename_i status
        refine Or.inr ⟨?_, (Except.error.inj failed).symm⟩
        rintro (refused | ⟨granted, -⟩)
        · exact unrefused refused
        · exact status granted
      rename_i status
      cases read : readBody HarborBeacon.unavailable HarborBeacon.unavailable 4096 [] chunks with
      | error reason =>
          rw [read] at failed
          have unread : Result.FailsOnly (· = HarborBeacon.unavailable)
              (readBody HarborBeacon.unavailable HarborBeacon.unavailable 4096 [] chunks) :=
            readBody_failsOnly (by rfl) (by rfl) chunks []
          obtain rfl := Except.error.inj failed
          refine Or.inr ⟨?_, unread reason read⟩
          rintro (refused | ⟨-, body, payload, mismatch, -⟩)
          · exact unrefused refused
          · simp at mismatch
      | ok body =>
          rw [read] at failed
          dsimp only at failed
          cases parsed : client.parse body with
          | none =>
              rw [parsed] at failed
              refine Or.inr ⟨?_, (Except.error.inj failed).symm⟩
              rintro (refused | ⟨-, _, payload, same, present, -⟩)
              · exact unrefused refused
              · obtain rfl := Except.ok.inj same
                simp [parsed] at present
          | some payload =>
              rw [parsed] at failed
              dsimp only [require] at failed
              split at failed
              · rename_i disallowed
                exact Or.inl ⟨Or.inr ⟨by omega, body, payload, rfl, parsed, disallowed⟩,
                  (Except.error.inj failed).symm⟩
              · simp at failed

/-! ## The class of a failed authorization -/

/-- An error is of the class that the authority's answer calls for, exactly outside the two kinds
of exchanges; a report of a changed identity is a denial. -/
structure Sorted (client : BeaconClient) (authorization : Authorization) (error : GatewayError) :
    Prop where
  agrees : (EndsDelivery error ↔ client.Denies authorization) ↔ client.Sorts authorization
  changed : error.code = "NAVI_IDENTITY_CHANGED" →
    client.Denies authorization ∧ client.Sorts authorization
  plain : shouldFallbackToFile error = false

section Sorting

variable {client : BeaconClient} {authorization : Authorization} {error : GatewayError}

theorem Sorted.granted (transient : Transient error) (undenied : ¬client.Denies authorization)
    (sorts : client.Sorts authorization) : Sorted client authorization error where
  agrees := iff_of_true (iff_of_false transient.retried undenied) sorts
  changed code := absurd code transient.unrelated
  plain := transient.plain

theorem Sorted.denied (ends : EndsDelivery error) (denies : client.Denies authorization)
    (sorts : client.Sorts authorization) (plain : shouldFallbackToFile error = false) :
    Sorted client authorization error where
  agrees := iff_of_true (iff_of_true ends denies) sorts
  changed _ := ⟨denies, sorts⟩
  plain := plain

theorem Sorted.missed (missorts : ¬client.Sorts authorization)
    (disagrees : ¬(EndsDelivery error ↔ client.Denies authorization))
    (unrelated : Unrelated error) (plain : shouldFallbackToFile error = false) :
    Sorted client authorization error where
  agrees := iff_of_false disagrees missorts
  changed code := absurd code unrelated
  plain := plain

end Sorting

theorem camerasOnline_sorted (around : Surroundings) (parse : List UInt8 → Option Json)
    (line : Nat → List (HttpReply × Int)) (selection : Selection) (desk : Desk)
    (artifacts : List Json) {error : GatewayError}
    (failed : (BeaconClient.relay around parse line selection desk).authorize (.cameras artifacts) =
      .error error) :
    Sorted (.relay around parse line selection desk) (.cameras artifacts) error := by
  rcases authorizeCameraAttachments_error around parse line selection artifacts desk failed with
    ⟨unstopped, transient⟩ | ⟨artifact, answer, stopped, only, probed⟩
  · refine .granted transient ?_ ?_
    · rintro ⟨artifact, answer, stopped, -⟩
      simp [unstopped] at stopped
    · intro artifact response stopped
      simp [unstopped] at stopped
  have denies : (BeaconClient.relay around parse line selection desk).Denies (.cameras artifacts) ↔
      relayDeniesMedia answer := by
    simp only [BeaconClient.Denies, stopped, Option.some.injEq, Prod.mk.injEq]
    exact ⟨fun ⟨_, _, ⟨_, same⟩, refuses⟩ => same ▸ refuses,
      fun refuses => ⟨artifact, answer, ⟨rfl, rfl⟩, refuses⟩⟩
  rcases probeOutcome_error probed with rfl | ⟨response, rfl, read⟩
  · have sorts : (BeaconClient.relay around parse line selection desk).Sorts
        (.cameras artifacts) := by
      intro other response mismatch
      simp [stopped] at mismatch
    rcases only error rfl with transient | rfl
    · refine .granted transient ?_ sorts
      rw [denies]
      exact transient.unrelated
    · exact .denied identityChanged_ends (denies.mpr rfl) sorts (by decide)
  have sorts : (BeaconClient.relay around parse line selection desk).Sorts (.cameras artifacts) ↔
      (relayDeniesMedia (.ok response) →
        (artifact.index "mime_type").asStr.any HarborBeacon.trustedAttachmentMime = true) := by
    simp only [BeaconClient.Sorts, stopped, Option.some.injEq, Prod.mk.injEq, Except.ok.injEq]
    refine ⟨fun each => each artifact response ⟨rfl, rfl⟩, ?_⟩
    rintro each _ _ ⟨rfl, rfl⟩
    exact each
  rcases read with ⟨untyped, transient⟩ | ⟨typed, ⟨refused, rfl⟩ | ⟨unrefused, transient⟩⟩
  · by_cases refused : relayDeniesMedia (.ok response)
    · refine .missed ?_ ?_ transient.unrelated transient.plain
      · rw [sorts, untyped]
        exact fun trusts => absurd (trusts refused) (by decide)
      · rw [denies]
        exact fun agree => transient.retried (agree.mpr refused)
    · exact .granted transient (denies.not.mpr refused) (sorts.mpr fun refuses => absurd refuses refused)
  · exact .denied mediaRevoked_ends (denies.mpr refused) (sorts.mpr fun _ => typed) (by decide)
  · exact .granted transient (denies.not.mpr unrefused) (sorts.mpr fun _ => typed)

theorem camerasDirectly_sorted (client : DirectClient) (artifacts : List Json)
    {error : GatewayError}
    (failed : (BeaconClient.direct client).authorize (.cameras artifacts) = .error error) :
    Sorted (.direct client) (.cameras artifacts) error := by
  obtain ⟨stop, stopped, read⟩ := authorizeCamerasDirectly_error client artifacts 0 failed
  have denies : (BeaconClient.direct client).Denies (.cameras artifacts) ↔
      ∃ reply, stop = .replied reply ∧ reply.deniesMedia = true := by
    simp only [BeaconClient.Denies, stopped, Option.some.injEq]
  have sorts : (BeaconClient.direct client).Sorts (.cameras artifacts) ↔ stop.isOutage = false := by
    simp only [BeaconClient.Sorts, stopped, Option.some.injEq, forall_eq']
  rcases read with ⟨rfl, transient⟩ | ⟨outage, either⟩ | ⟨reply, rfl, refused, rfl⟩
  · refine .granted transient ?_ (sorts.mpr rfl)
    rw [denies]
    rintro ⟨reply, mismatch, -⟩
    simp at mismatch
  · have ends : EndsDelivery error ∧ Unrelated error ∧ shouldFallbackToFile error = false := by
      rcases either with rfl | rfl
      · exact ⟨mediaTokenMissing_ends, by decide, by decide⟩
      · exact ⟨mediaUnavailable_ends, by decide, by decide⟩
    refine .missed ?_ ?_ ends.2.1 ends.2.2
    · simp [sorts, outage]
    · rw [denies]
      rintro agree
      obtain ⟨reply, rfl, refused⟩ := agree.mp ends.1
      simp [HarborBeacon.DirectStop.isOutage, refused] at outage
  · refine .denied mediaRevoked_ends (denies.mpr ⟨reply, rfl, refused⟩) (sorts.mpr ?_) (by decide)
    simp [HarborBeacon.DirectStop.isOutage, refused]

/-- Both WhatsApp exchanges end in a denial or in an outage, and sort them by it. -/
theorem whatsapp_sorted {client : BeaconClient} {outbound : OutboundMessage} {error : GatewayError}
    (read : client.Denies (.whatsapp outbound) ∧ error = HarborBeacon.denied ∨
      ¬client.Denies (.whatsapp outbound) ∧ error = HarborBeacon.unavailable) :
    Sorted client (.whatsapp outbound) error := by
  have sorts : client.Sorts (.whatsapp outbound) := by
    cases client <;> exact trivial
  rcases read with ⟨denies, rfl⟩ | ⟨undenied, rfl⟩
  · exact .denied denied_ends denies sorts (by decide)
  · exact .granted transient_unchecked undenied sorts

theorem BeaconClient.sorted {client : BeaconClient} {authorization : Authorization}
    {error : GatewayError} (asked : authorization.Asked)
    (failed : client.authorize authorization = .error error) :
    Sorted client authorization error := by
  cases authorization with
  | cameras artifacts =>
      cases client with
      | relay around parse line selection desk =>
          exact camerasOnline_sorted around parse line selection desk artifacts failed
      | direct client => exact camerasDirectly_sorted client artifacts failed
  | whatsapp outbound =>
      obtain ⟨request, asked⟩ := asked
      refine whatsapp_sorted ?_
      cases client with
      | relay around parse line selection desk =>
          simp only [BeaconClient.authorize, HarborBeacon.authorizeWhatsappDelivery, asked]
            at failed
          simpa only [BeaconClient.Denies, asked, Except.ok.injEq, exists_eq_left',
            Surroundings.online_codec] using authorizationOutcome_error failed
      | direct client => exact authorizeWhatsappDirectly_error asked failed

end HarborGate
