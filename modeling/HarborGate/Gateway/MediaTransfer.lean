import HarborGate.Fleet.Retired
import HarborGate.Gateway.Relay
import HarborGate.Lib.Base64

/-!
`download_remote_media_artifact` of `harborbeacon.rs`: a camera artifact is fetched from its device
in ranges of 48 KiB, each of them checked by `decode_remote_media` before it is written. The
arithmetic is that of `u64`, with overflow as an outcome of its own.
-/

namespace HarborGate.HarborBeacon

open NaviFleet

inductive Fault
  | overflow
  | failed (error : GatewayError)

abbrev Checked := Except Fault

@[irreducible] def u64Add (left right : Nat) : Checked Nat :=
  -- In this order a literal on the right is not counted down when the comparison is reduced.
  if right + left < 2 ^ 64 then .ok (left + right) else .error .overflow

@[irreducible] def u64Sub (left right : Nat) : Checked Nat :=
  if right ≤ left then .ok (left - right) else .error .overflow

def checked {α : Type} (result : FleetResult α) : Checked α :=
  result.mapError .failed

def chunkSize : Nat := 48 * 1024

def mediaLimit : Nat := 128 * 1024 * 1024

def mediaDenied : GatewayError :=
  GatewayError.new 403 "CAMERA_MEDIA_DELIVERY_NOT_ALLOWED"
    "Camera media permission was revoked or the attachment expired"

/-- An answer with status 200 has to be the whole artifact. -/
def checkWhole (status offset last total : Nat) : Checked Unit :=
  if status = 200 then do
    checked (ensure (offset = 0) invalidMedia)
    let bound ← u64Add last 1
    checked (ensure (total ≤ bound) invalidMedia)
  else .ok ()

/-- `sha256` is the lower case hexadecimal digest. -/
def decodeRemoteMedia (sha256 : List UInt8 → String) (response : RelayResponse)
    (offset last : Nat) (mimeType : String) : Checked (List UInt8 × Nat) := do
  checked (ensure (response.status ∉ [400, 401, 403, 404, 410, 416]) mediaDenied)
  checked (ensure (response.status = 200 ∨ response.status = 206) invalidMedia)
  let total ← checked (require ((asU64 (response.body.index "totalBytes")).filter fun total =>
    offset < total ∧ total ≤ mediaLimit) invalidMedia)
  checked (ensure (asU64 (response.body.index "artifactOffset") = some offset) invalidMedia)
  checkWhole response.status offset last total
  checked (ensure ((response.body.index "contentType").asStr.any
    (asciiLower · == asciiLower mimeType)) invalidMedia)
  let encoded ← checked (require ((response.body.index "dataBase64").asStr.filter fun text =>
    Text.utf8Len text ≤ 65536) invalidMedia)
  let bytes ← checked (require (Base64.decode encoded) invalidMedia)
  let bound ← u64Add last 1
  let expected ← u64Sub (min bound total) offset
  checked (ensure (bytes.length = expected ∧
    asU64 (response.body.index "bytes") = some bytes.length ∧
    (response.body.index "sha256").asStr = some (sha256 bytes)) invalidMedia)
  return (bytes, total)

/-! ## The loop -/

structure MediaRequest where
  artifactId : String
  offset : Nat
  last : Nat

def MediaRequest.body (request : MediaRequest) : Json :=
  .obj [("artifact_id", .str request.artifactId),
    ("range", .str ("bytes=" ++ toString request.offset ++ "-" ++ toString request.last))]

/-- What becomes of one request: the device's answer, and whether the file took its bytes. -/
structure MediaRound where
  answer : FleetResult RelayResponse
  written : Bool

/-- A range that was read and written. -/
structure MediaPart where
  request : MediaRequest
  bytes : List UInt8
  total : Nat

structure Transfer where
  result : Checked Unit
  requests : List MediaRequest
  parts : List MediaPart

/-- What the cache file holds. -/
def Transfer.written (transfer : Transfer) : List UInt8 :=
  transfer.parts.flatMap (·.bytes)

def Transfer.after (transfer : Transfer) (request : MediaRequest) (part : MediaPart) : Transfer :=
  { transfer with
    requests := request :: transfer.requests
    parts := part :: transfer.parts }

def rangeEnd (offset : Nat) : Checked Nat := do
  let sum ← u64Add offset chunkSize
  let last ← u64Sub sum 1
  let bound ← u64Sub mediaLimit 1
  return min last bound

/-- What one round contributes: the part it read, and the offset after it. -/
def receivePart (sha256 : List UInt8 → String) (mimeType : String) (request : MediaRequest)
    (total : Option Nat) (round : MediaRound) : Checked (MediaPart × Nat) := do
  let response ← checked round.answer
  let (bytes, reported) ←
    decodeRemoteMedia sha256 response request.offset request.last mimeType
  checked (ensure (total.all (· == reported))
    (GatewayError.infrastructure "Camera media changed during transfer"))
  checked (ensure (round.written = true)
    (GatewayError.infrastructure "Gate media cache write failed"))
  let next ← u64Add request.offset bytes.length
  return (⟨request, bytes, reported⟩, next)

/-- `rounds` is the number of requests that fit into the 120 seconds. -/
def transferLoop (sha256 : List UInt8 → String) (relay : Nat → MediaRequest → MediaRound)
    (artifactId mimeType : String) : (rounds index offset : Nat) → Option Nat → Transfer
  | 0, _, _, _ =>
      ⟨.error (.failed (GatewayError.infrastructure "Camera media transfer timed out")), [], []⟩
  | rounds + 1, index, offset, total =>
      match rangeEnd offset with
      | .error fault => ⟨.error fault, [], []⟩
      | .ok last =>
          let request : MediaRequest := ⟨artifactId, offset, last⟩
          match receivePart sha256 mimeType request total (relay index request) with
          | .error fault => ⟨.error fault, [request], []⟩
          | .ok (part, next) =>
              if next = part.total then ⟨.ok (), [request], [part]⟩
              else
                (transferLoop sha256 relay artifactId mimeType rounds (index + 1) next
                  (some part.total)).after request part

/-- What the file operations around the loop answer. -/
structure CacheFile where
  created : Bool
  flushed : Bool
  synced : Bool

def downloadRemoteMediaArtifact (sha256 : List UInt8 → String)
    (relay : Nat → MediaRequest → MediaRound) (file : CacheFile) (artifactId mimeType : String)
    (rounds : Nat) : Transfer :=
  if file.created then
    let transfer := transferLoop sha256 relay artifactId mimeType rounds 0 0 none
    { transfer with
      result := do
        transfer.result
        checked (ensure (file.flushed = true)
          (GatewayError.infrastructure "Gate media cache flush failed"))
        checked (ensure (file.synced = true)
          (GatewayError.infrastructure "Gate media cache sync failed")) }
  else ⟨.error (.failed (GatewayError.infrastructure "Gate media cache create failed")), [], []⟩

/-! ## Arithmetic -/

def Sound {α : Type} (result : Checked α) : Prop :=
  result ≠ .error .overflow

section

variable {α β : Type}

theorem Sound.bind {first : Checked α} {next : α → Checked β} (sound : Sound first)
    (continues : ∀ value, first = .ok value → Sound (next value)) : Sound (first >>= next) := by
  cases first with
  | error fault =>
      cases fault with
      | overflow => exact absurd rfl sound
      | failed error => simp [Sound, Bind.bind, Except.bind]
  | ok value => exact continues value rfl

theorem Sound.ok (value : α) : Sound (.ok value : Checked α) := by
  simp [Sound]

theorem checked_sound (result : FleetResult α) : Sound (checked result) := by
  intro overflows
  cases result <;> cases overflows

theorem checked_ok {result : FleetResult α} {value : α} :
    checked result = .ok value ↔ result = .ok value := by
  simp only [checked, Result.mapError_eq_ok]

theorem u64Add_eq {left right : Nat} (fits : left + right < 2 ^ 64) :
    u64Add left right = .ok (left + right) := by
  rw [u64Add, if_pos (Nat.add_comm left right ▸ fits)]

theorem u64Sub_eq {left right : Nat} (ordered : right ≤ left) :
    u64Sub left right = .ok (left - right) := by
  rw [u64Sub, if_pos ordered]

/-- The last byte that is asked for at an offset. -/
def lastOf (offset : Nat) : Nat :=
  min (offset + chunkSize - 1) (mediaLimit - 1)

theorem lastOf_succ {offset : Nat} (below : offset < mediaLimit) :
    lastOf offset + 1 ≤ offset + chunkSize ∧ lastOf offset + 1 ≤ mediaLimit ∧
      (lastOf offset + 1 = offset + chunkSize ∨ lastOf offset + 1 = mediaLimit) := by
  simp only [lastOf, chunkSize, mediaLimit] at below ⊢
  omega

theorem rangeEnd_eq {offset : Nat} (below : offset < mediaLimit) :
    rangeEnd offset = .ok (lastOf offset) := by
  have sum : u64Add offset chunkSize = .ok (offset + chunkSize) := by
    apply u64Add_eq
    simp only [mediaLimit, chunkSize] at below ⊢
    omega
  have last : u64Sub (offset + chunkSize) 1 = .ok (offset + chunkSize - 1) := by
    apply u64Sub_eq
    simp only [chunkSize]
    omega
  have bound : u64Sub mediaLimit 1 = .ok (mediaLimit - 1) := by
    apply u64Sub_eq
    simp only [mediaLimit]
    omega
  simp only [rangeEnd, Result.bind_eq_ok]
  exact ⟨_, sum, _, last, _, bound, rfl⟩

end

/-! ## One range -/

section

variable {sha256 : List UInt8 → String} {response : RelayResponse} {offset last : Nat}
  {mimeType : String}

theorem checkWhole_sound (fits : last + 1 < 2 ^ 64) (status total : Nat) :
    Sound (checkWhole status offset last total) := by
  simp only [checkWhole]
  split
  · refine (checked_sound _).bind fun _ _ => ?_
    rw [u64Add_eq fits]
    exact (Sound.ok _).bind fun _ _ => checked_sound _
  · exact .ok ()

theorem decodeRemoteMedia_sound (ordered : offset ≤ last) (fits : last + 1 < 2 ^ 64) :
    Sound (decodeRemoteMedia sha256 response offset last mimeType) := by
  refine (checked_sound _).bind fun _ _ => ?_
  refine (checked_sound _).bind fun _ _ => ?_
  refine (checked_sound _).bind fun total found => ?_
  have above : offset < total := by
    have filtered := require_ok.mp (checked_ok.mp found)
    exact (of_decide_eq_true (Option.filter_eq_some_iff.mp filtered).2).1
  refine (checked_sound _).bind fun _ _ => ?_
  refine (checkWhole_sound fits _ total).bind fun _ _ => ?_
  refine (checked_sound _).bind fun _ _ => ?_
  refine (checked_sound _).bind fun _ _ => ?_
  refine (checked_sound _).bind fun bytes _ => ?_
  rw [u64Add_eq fits]
  refine (Sound.ok _).bind fun bound same => ?_
  obtain rfl := Except.ok.inj same
  rw [u64Sub_eq (by omega)]
  refine (Sound.ok _).bind fun expected _ => ?_
  exact (checked_sound _).bind fun _ _ => .ok _

/-- An accepted range is as long as it was asked for, up to the end of the artifact. -/
theorem decodeRemoteMedia_ok {bytes : List UInt8} {total : Nat} (ordered : offset ≤ last)
    (fits : last + 1 < 2 ^ 64)
    (decoded : decodeRemoteMedia sha256 response offset last mimeType = .ok (bytes, total)) :
    offset < total ∧ total ≤ mediaLimit ∧ bytes.length = min (last + 1) total - offset := by
  simp only [decodeRemoteMedia, Result.bind_eq_ok, Result.pure_eq_ok, Prod.mk.injEq, checked_ok,
    require_ok, u64Add_eq fits, Except.ok.injEq] at decoded
  obtain ⟨-, -, -, -, reported, filtered, -, -, -, -, -, -, -, -, data, -, bound, rfl, expected,
    difference, ⟨⟩, measured, rfl, rfl⟩ := decoded
  obtain ⟨above, below⟩ := of_decide_eq_true (Option.filter_eq_some_iff.mp filtered).2
  rw [u64Sub_eq (by omega)] at difference
  obtain rfl := Except.ok.inj difference
  exact ⟨above, below, (ensure_ok.mp measured).1⟩

end

/-- The permission probe accepts what the transfer of the first byte accepts. -/
theorem decodeProbe_ok_iff {codec : CloudRelay.Codec} {sha256 : List UInt8 → String}
    {response : RelayResponse} {mimeType : String}
    (media : ∀ text, codec.media text =
      (Base64.decode text).map fun bytes => (bytes.length, sha256 bytes)) :
    decodeProbe codec mimeType response = .ok () ↔
      ∃ bytes total, decodeRemoteMedia sha256 response 0 0 mimeType = .ok (bytes, total) := by
  have bound : u64Add 0 1 = .ok 1 := u64Add_eq (by decide)
  have span (total : Nat) : u64Sub (min 1 total) 0 = .ok (min 1 total) := u64Sub_eq (Nat.zero_le _)
  have whole (total : Nat) : checkWhole response.status 0 0 total = .ok () ↔
      ¬(response.status = 200 ∧ 1 < total) := by
    simp only [checkWhole]
    by_cases ok : response.status = 200
    · simp only [ok, if_true, true_and, Nat.not_lt, Result.bind_eq_ok]
      constructor
      · rintro ⟨-, -, top, added, fits⟩
        obtain rfl := Except.ok.inj (bound.symm.trans added)
        exact ensure_ok.mp (checked_ok.mp fits)
      · intro fits
        exact ⟨(), checked_ok.mpr (ensure_ok.mpr trivial), 1, bound,
          checked_ok.mpr (ensure_ok.mpr fits)⟩
    · simp [ok]
  constructor
  · intro accepted
    simp only [decodeProbe, Result.bind_eq_ok, require_ok, Prod.exists, media,
      Option.map_eq_some_iff] at accepted
    obtain ⟨⟨⟩, allowed, ⟨⟩, served, total, sized, ⟨⟩, placed, encoded, text, -, -,
      ⟨bytes, decoded, ⟨rfl, rfl⟩⟩, measured⟩ := accepted
    obtain ⟨offset, entire, type⟩ := ensure_ok.mp placed
    obtain ⟨length, counted, digest⟩ := ensure_ok.mp measured
    refine ⟨bytes, total, ?_⟩
    simp only [decodeRemoteMedia, Result.bind_eq_ok, Result.pure_eq_ok]
    exact ⟨(), checked_ok.mpr allowed, (), checked_ok.mpr served, total,
      checked_ok.mpr (require_ok.mpr sized), (), checked_ok.mpr (ensure_ok.mpr offset), (),
      (whole total).mpr entire, (), checked_ok.mpr (ensure_ok.mpr type), encoded,
      checked_ok.mpr (require_ok.mpr text), bytes, checked_ok.mpr (require_ok.mpr decoded), 1,
      bound, _, span total, (), checked_ok.mpr (ensure_ok.mpr ⟨length, counted, digest⟩), rfl⟩
  · rintro ⟨bytes, total, decoded⟩
    simp only [decodeRemoteMedia, Result.bind_eq_ok, Result.pure_eq_ok, checked_ok,
      require_ok] at decoded
    obtain ⟨⟨⟩, allowed, ⟨⟩, served, reported, sized, ⟨⟩, offset, ⟨⟩, entire, ⟨⟩, type, encoded, text,
      data, plain, top, added, expected, difference, ⟨⟩, measured, -⟩ := decoded
    obtain rfl := Except.ok.inj (bound.symm.trans added)
    obtain rfl := Except.ok.inj ((span reported).symm.trans difference)
    have placed := And.intro (ensure_ok.mp offset)
      (And.intro ((whole reported).mp entire) (ensure_ok.mp type))
    simp only [decodeProbe, Result.bind_eq_ok, require_ok, Prod.exists, media,
      Option.map_eq_some_iff]
    exact ⟨(), allowed, (), served, reported, sized, (), ensure_ok.mpr placed, encoded, text, _, _,
      ⟨data, plain, rfl⟩, measured⟩

/-- A part that was read from the device's answer to its own request. -/
structure MediaPart.ReadFrom (part : MediaPart) (sha256 : List UInt8 → String) (mimeType : String)
    (round : MediaRound) : Prop where
  answered : ∃ response, round.answer = .ok response ∧
    decodeRemoteMedia sha256 response part.request.offset part.request.last mimeType =
      .ok (part.bytes, part.total)
  written : round.written = true

section

variable {sha256 : List UInt8 → String} {mimeType : String} {request : MediaRequest}
  {total : Option Nat} {round : MediaRound}

theorem receivePart_sound (ordered : request.offset ≤ request.last)
    (below : request.last < mediaLimit) :
    Sound (receivePart sha256 mimeType request total round) := by
  simp only [mediaLimit] at below
  have fits : request.last + 1 < 2 ^ 64 := by omega
  refine (checked_sound _).bind fun response _ => ?_
  refine (decodeRemoteMedia_sound ordered fits).bind ?_
  rintro ⟨bytes, reported⟩ decoded
  obtain ⟨above, limit, measured⟩ := decodeRemoteMedia_ok ordered fits decoded
  simp only [mediaLimit] at limit
  refine (checked_sound _).bind fun _ _ => ?_
  refine (checked_sound _).bind fun _ _ => ?_
  rw [u64Add_eq (by omega)]
  exact (Sound.ok _).bind fun _ _ => .ok _

theorem receivePart_ok {part : MediaPart} {next : Nat} (ordered : request.offset ≤ request.last)
    (below : request.last < mediaLimit)
    (received : receivePart sha256 mimeType request total round = .ok (part, next)) :
    part.request = request ∧ part.ReadFrom sha256 mimeType round ∧
      request.offset < part.total ∧ part.total ≤ mediaLimit ∧
      (∀ earlier, total = some earlier → earlier = part.total) ∧
      next = min (request.last + 1) part.total ∧ request.offset + part.bytes.length = next := by
  simp only [mediaLimit] at below
  have fits : request.last + 1 < 2 ^ 64 := by omega
  simp only [receivePart, Result.bind_eq_ok, Result.pure_eq_ok, checked_ok, Prod.exists,
    Prod.mk.injEq] at received
  obtain ⟨response, answered, bytes, reported, decoded, ⟨⟩, agrees, ⟨⟩, written, sum, added, rfl,
    rfl⟩ := received
  obtain ⟨above, limit, measured⟩ := decodeRemoteMedia_ok ordered fits decoded
  have limited : reported ≤ 128 * 1024 * 1024 := limit
  rw [u64Add_eq (by omega)] at added
  have sum := (Except.ok.inj added).symm
  have agrees := ensure_ok.mp agrees
  refine ⟨rfl, ⟨⟨response, answered, decoded⟩, ensure_ok.mp written⟩, above, limit, ?_, ?_, ?_⟩
  · intro earlier same
    simpa [same] using agrees
  · dsimp only
    omega
  · exact sum.symm

end

/-! ## The whole transfer -/

/-- The range that is asked for at an offset. -/
def rangeAt (artifactId : String) (offset : Nat) : MediaRequest :=
  ⟨artifactId, offset, lastOf offset⟩

@[simp] theorem rangeAt_offset (artifactId : String) (offset : Nat) :
    (rangeAt artifactId offset).offset = offset :=
  rfl

@[simp] theorem rangeAt_last (artifactId : String) (offset : Nat) :
    (rangeAt artifactId offset).last = lastOf offset :=
  rfl

theorem chunkSize_eq : chunkSize = 49152 :=
  rfl

theorem mediaLimit_eq : mediaLimit = 134217728 :=
  rfl

theorem rangeAt_ordered {artifactId : String} {offset : Nat} (below : offset < mediaLimit) :
    (rangeAt artifactId offset).offset ≤ (rangeAt artifactId offset).last ∧
      (rangeAt artifactId offset).last < mediaLimit := by
  have last := lastOf_succ below
  have chunk := chunkSize_eq
  simp only [rangeAt_offset, rangeAt_last]
  omega

/-- Parts that follow one another from `offset` up to `total`, each read from the answer to its own
request. -/
def Contiguous (sha256 : List UInt8 → String) (relay : Nat → MediaRequest → MediaRound)
    (artifactId mimeType : String) (total : Nat) : (index offset : Nat) → List MediaPart → Prop
  | _, offset, [] => offset = total
  | index, offset, part :: rest =>
      part.request = rangeAt artifactId offset ∧ part.total = total ∧
        part.ReadFrom sha256 mimeType (relay index part.request) ∧ part.bytes ≠ [] ∧
        Contiguous sha256 relay artifactId mimeType total (index + 1)
          (offset + part.bytes.length) rest

/-- The number of ranges between an offset and the size limit. -/
def rangesFrom (offset : Nat) : Nat :=
  (mediaLimit - offset + chunkSize - 1) / chunkSize

section

variable {sha256 : List UInt8 → String} {relay : Nat → MediaRequest → MediaRound}
  {artifactId mimeType : String}

/-- A part that does not end the artifact is a full chunk, and there is more below the limit. -/
theorem receivePart_next {offset next : Nat} {total : Option Nat} {round : MediaRound}
    {part : MediaPart} (below : offset < mediaLimit)
    (received : receivePart sha256 mimeType (rangeAt artifactId offset) total round =
      .ok (part, next)) :
    part.request = rangeAt artifactId offset ∧ part.ReadFrom sha256 mimeType round ∧
      (∀ earlier, total = some earlier → earlier = part.total) ∧ part.total ≤ mediaLimit ∧
      offset + part.bytes.length = next ∧ offset < next ∧
      (next ≠ part.total → next = offset + chunkSize ∧ next < mediaLimit) := by
  obtain ⟨ordered, limited⟩ := @rangeAt_ordered artifactId offset below
  obtain ⟨request, read, above, limit, agrees, least, measured⟩ :=
    receivePart_ok ordered limited received
  have last := lastOf_succ below
  have chunk := chunkSize_eq
  simp only [rangeAt_offset, rangeAt_last] at above least measured
  refine ⟨request, read, agrees, limit, measured, ?_, ?_⟩
  · omega
  · intro unfinished
    omega

theorem transferLoop_zero (index offset : Nat) (total : Option Nat) :
    transferLoop sha256 relay artifactId mimeType 0 index offset total =
      ⟨.error (.failed (GatewayError.infrastructure "Camera media transfer timed out")), [], []⟩ :=
  rfl

theorem transferLoop_succ {rounds index offset : Nat} {total : Option Nat}
    (below : offset < mediaLimit) :
    transferLoop sha256 relay artifactId mimeType (rounds + 1) index offset total =
      match receivePart sha256 mimeType (rangeAt artifactId offset) total
          (relay index (rangeAt artifactId offset)) with
      | .error fault => ⟨.error fault, [rangeAt artifactId offset], []⟩
      | .ok (part, next) =>
          if next = part.total then ⟨.ok (), [rangeAt artifactId offset], [part]⟩
          else
            (transferLoop sha256 relay artifactId mimeType rounds (index + 1) next
              (some part.total)).after (rangeAt artifactId offset) part := by
  simp only [transferLoop, rangeEnd_eq below]
  rfl

theorem transferLoop_sound (rounds : Nat) : ∀ (index offset : Nat) (total : Option Nat),
    offset < mediaLimit →
    Sound (transferLoop sha256 relay artifactId mimeType rounds index offset total).result := by
  induction rounds with
  | zero =>
      intro index offset total below
      simp [transferLoop_zero, Sound]
  | succ rounds ih =>
      intro index offset total below
      have sound : Sound (receivePart sha256 mimeType (rangeAt artifactId offset) total
          (relay index (rangeAt artifactId offset))) :=
        receivePart_sound (rangeAt_ordered below).1 (rangeAt_ordered below).2
      rw [transferLoop_succ below]
      cases received : receivePart sha256 mimeType (rangeAt artifactId offset) total
          (relay index (rangeAt artifactId offset)) with
      | error fault =>
          rw [received] at sound
          intro overflow
          exact sound (congrArg Except.error (Except.error.inj overflow))
      | ok value =>
          obtain ⟨part, next⟩ := value
          dsimp only
          split
          · exact .ok ()
          · rename_i unfinished
            obtain ⟨-, -, -, -, -, -, more⟩ := receivePart_next below received
            exact ih (index + 1) next (some part.total) (more unfinished).2

/-- Every round comes one chunk closer to the limit, so the loop makes boundedly many requests. -/
theorem transferLoop_requests (rounds : Nat) : ∀ (index offset : Nat) (total : Option Nat),
    offset < mediaLimit →
    (transferLoop sha256 relay artifactId mimeType rounds index offset total).requests.length ≤
      rangesFrom offset := by
  induction rounds with
  | zero =>
      intro index offset total below
      simp [transferLoop_zero]
  | succ rounds ih =>
      intro index offset total below
      have one : 1 ≤ rangesFrom offset := by
        simp only [rangesFrom, chunkSize, mediaLimit] at below ⊢
        omega
      rw [transferLoop_succ below]
      cases received : receivePart sha256 mimeType (rangeAt artifactId offset) total
          (relay index (rangeAt artifactId offset)) with
      | error fault => exact one
      | ok value =>
          obtain ⟨part, next⟩ := value
          dsimp only
          split
          · exact one
          · rename_i unfinished
            obtain ⟨-, -, -, -, -, -, more⟩ := receivePart_next below received
            obtain ⟨rfl, belowNext⟩ := more unfinished
            have rest := ih (index + 1) _ (some part.total) belowNext
            simp only [Transfer.after, List.length_cons]
            simp only [rangesFrom, chunkSize, mediaLimit] at belowNext rest ⊢
            omega

theorem transferLoop_parts (rounds : Nat) : ∀ (index offset : Nat) (total : Option Nat),
    (transferLoop sha256 relay artifactId mimeType rounds index offset total).parts.length ≤
      (transferLoop sha256 relay artifactId mimeType rounds index offset total).requests.length := by
  induction rounds with
  | zero =>
      intro index offset total
      simp [transferLoop_zero]
  | succ rounds ih =>
      intro index offset total
      simp only [transferLoop]
      split
      · exact Nat.le_refl _
      · split
        · exact Nat.zero_le _
        · rename_i value part next received
          split
          · exact Nat.le_refl _
          · have rest := ih (index + 1) next (some part.total)
            simp only [Transfer.after, List.length_cons]
            omega

theorem transferLoop_progress (rounds : Nat) : ∀ (index offset : Nat) (total : Option Nat),
    offset < mediaLimit →
    ∀ part ∈ (transferLoop sha256 relay artifactId mimeType rounds index offset total).parts,
      part.bytes ≠ [] := by
  induction rounds with
  | zero =>
      intro index offset total below
      simp [transferLoop_zero]
  | succ rounds ih =>
      intro index offset total below
      rw [transferLoop_succ below]
      cases received : receivePart sha256 mimeType (rangeAt artifactId offset) total
          (relay index (rangeAt artifactId offset)) with
      | error fault => simp
      | ok value =>
          obtain ⟨part, next⟩ := value
          obtain ⟨-, -, -, -, measured, progress, more⟩ := receivePart_next below received
          have nonempty : part.bytes ≠ [] := by
            intro empty
            rw [empty, List.length_nil] at measured
            omega
          intro other member
          dsimp only at member
          split at member
          · obtain rfl := List.mem_singleton.mp member
            exact nonempty
          · rename_i unfinished
            rcases List.mem_cons.mp member with rfl | later
            · exact nonempty
            · exact ih (index + 1) next (some part.total) (more unfinished).2 other later

/-- With a round for every range, further ones change nothing. -/
theorem transferLoop_settled (extra rounds : Nat) : ∀ (index offset : Nat) (total : Option Nat),
    offset < mediaLimit → rangesFrom offset ≤ rounds →
    transferLoop sha256 relay artifactId mimeType (rounds + extra) index offset total =
      transferLoop sha256 relay artifactId mimeType rounds index offset total := by
  induction rounds with
  | zero =>
      intro index offset total below enough
      simp only [rangesFrom, chunkSize, mediaLimit] at below enough
      omega
  | succ rounds ih =>
      intro index offset total below enough
      rw [Nat.add_right_comm, transferLoop_succ below, transferLoop_succ below]
      cases received : receivePart sha256 mimeType (rangeAt artifactId offset) total
          (relay index (rangeAt artifactId offset)) with
      | error fault => rfl
      | ok value =>
          obtain ⟨part, next⟩ := value
          dsimp only
          split
          · rfl
          · rename_i unfinished
            obtain ⟨-, -, -, -, -, -, more⟩ := receivePart_next below received
            obtain ⟨rfl, belowNext⟩ := more unfinished
            have fewer : rangesFrom (offset + chunkSize) ≤ rounds := by
              simp only [rangesFrom, chunkSize, mediaLimit] at belowNext enough ⊢
              omega
            rw [ih (index + 1) _ (some part.total) belowNext fewer]

/-- A transfer that succeeds has read the artifact from the offset to its one reported end. -/
theorem transferLoop_ok (rounds : Nat) : ∀ (index offset : Nat) (total : Option Nat),
    offset < mediaLimit →
    (transferLoop sha256 relay artifactId mimeType rounds index offset total).result = .ok () →
    ∃ size, (∀ earlier, total = some earlier → earlier = size) ∧ offset < size ∧
      size ≤ mediaLimit ∧
      Contiguous sha256 relay artifactId mimeType size index offset
        (transferLoop sha256 relay artifactId mimeType rounds index offset total).parts := by
  induction rounds with
  | zero =>
      intro index offset total below ok
      simp [transferLoop_zero] at ok
  | succ rounds ih =>
      intro index offset total below ok
      rw [transferLoop_succ below] at ok ⊢
      cases received : receivePart sha256 mimeType (rangeAt artifactId offset) total
          (relay index (rangeAt artifactId offset)) with
      | error fault => simp [received] at ok
      | ok value =>
          obtain ⟨part, next⟩ := value
          obtain ⟨request, read, agrees, limit, measured, progress, more⟩ :=
            receivePart_next below received
          have nonempty : part.bytes ≠ [] := by
            intro empty
            rw [empty, List.length_nil] at measured
            omega
          rw [← request] at read
          simp only [received] at ok ⊢
          by_cases finished : next = part.total
          · rw [if_pos finished]
            refine ⟨part.total, agrees, by omega, limit, request, rfl, read, nonempty, ?_⟩
            simp only [Contiguous]
            omega
          · rw [if_neg finished] at ok ⊢
            obtain ⟨size, same, above, sizeLimit, rest⟩ :=
              ih (index + 1) next (some part.total) (more finished).2 ok
            obtain rfl := same part.total rfl
            refine ⟨part.total, agrees, by omega, sizeLimit, request, rfl, read, nonempty, ?_⟩
            rw [measured]
            exact rest

theorem Contiguous.length {size : Nat} (parts : List MediaPart) : ∀ {index offset : Nat},
    Contiguous sha256 relay artifactId mimeType size index offset parts →
    offset + (parts.flatMap (·.bytes)).length = size := by
  induction parts with
  | nil =>
      intro index offset contiguous
      simpa [Contiguous] using contiguous
  | cons part rest ih =>
      intro index offset contiguous
      obtain ⟨-, -, -, -, later⟩ := contiguous
      have total := ih later
      simp only [List.flatMap_cons, List.length_append]
      omega

end

/-! ## An honest device -/

/-- The bytes of a content that a request asks for. -/
def rangeOf (content : List UInt8) (request : MediaRequest) : List UInt8 :=
  (content.drop request.offset).take (request.last + 1 - request.offset)

theorem rangeOf_length (content : List UInt8) (artifactId : String) (offset : Nat) :
    (rangeOf content (rangeAt artifactId offset)).length =
      min (lastOf offset + 1) content.length - offset := by
  simp only [rangeOf, rangeAt_offset, rangeAt_last, List.length_take, List.length_drop]
  omega

theorem rangeOf_rest {content : List UInt8} {artifactId : String} {offset : Nat}
    (covers : content.length ≤ lastOf offset + 1) :
    rangeOf content (rangeAt artifactId offset) = content.drop offset := by
  have length : (content.drop offset).length ≤ lastOf offset + 1 - offset := by
    rw [List.length_drop]
    exact Nat.sub_le_sub_right covers offset
  rw [rangeOf, rangeAt_offset, rangeAt_last]
  exact List.take_of_length_le length

def honestAnswer (sha256 : List UInt8 → String) (content : List UInt8)
    (hubIdentity contentType : String) (status : Nat) (request : MediaRequest) : RelayResponse where
  hubIdentity := hubIdentity
  status := status
  body := .obj [("artifactOffset", .num request.offset),
    ("bytes", .num (rangeOf content request).length), ("contentType", .str contentType),
    ("dataBase64", .str (Base64.encode (rangeOf content request))),
    ("sha256", .str (sha256 (rangeOf content request))), ("totalBytes", .num content.length)]

/-- A device that serves this content, and a file that takes it. The status is 206, or 200 when the
content fits into one chunk. -/
def Honest (sha256 : List UInt8 → String) (content : List UInt8) (mimeType : String)
    (relay : Nat → MediaRequest → MediaRound) : Prop :=
  ∀ index request, request.offset < content.length →
    ∃ hubIdentity contentType status, asciiLower contentType = asciiLower mimeType ∧
      (status = 206 ∨ status = 200 ∧ content.length ≤ chunkSize) ∧
      relay index request =
        ⟨.ok (honestAnswer sha256 content hubIdentity contentType status request), true⟩

theorem asU64_num {number : Nat} (fits : number < 2 ^ 64) : asU64 (.num number) = some number := by
  have inside : 0 ≤ (number : Int) ∧ (number : Int) < 2 ^ 64 := by omega
  simp only [asU64, Json.asInt, Option.filter, inside, and_self, decide_true, if_true,
    Option.map_some, Int.toNat_natCast]

section

variable {sha256 : List UInt8 → String} {relay : Nat → MediaRequest → MediaRound}
  {artifactId mimeType : String} {content : List UInt8}

/-- The answer of an honest device to the range at an offset is read as that range. -/
theorem decodeRemoteMedia_honest {offset status : Nat} {hubIdentity contentType : String}
    (inside : offset < content.length) (limit : content.length ≤ mediaLimit)
    (type : asciiLower contentType = asciiLower mimeType)
    (whole : status = 206 ∨ status = 200 ∧ offset = 0 ∧ content.length ≤ chunkSize) :
    decodeRemoteMedia sha256
        (honestAnswer sha256 content hubIdentity contentType status (rangeAt artifactId offset))
        offset (lastOf offset) mimeType =
      .ok (rangeOf content (rangeAt artifactId offset), content.length) := by
  have chunk := chunkSize_eq
  have limitValue := mediaLimit_eq
  have small : content.length < 2 ^ 64 := by omega
  have last := lastOf_succ (Nat.lt_of_lt_of_le inside limit)
  have measured := rangeOf_length content artifactId offset
  have top : u64Add (lastOf offset) 1 = .ok (lastOf offset + 1) := by
    apply u64Add_eq
    omega
  have least : u64Sub (min (lastOf offset + 1) content.length) offset =
      .ok (rangeOf content (rangeAt artifactId offset)).length := by
    rw [measured]
    apply u64Sub_eq
    omega
  have encoded : Text.utf8Len (Base64.encode (rangeOf content (rangeAt artifactId offset))) ≤
      65536 := by
    simp only [Text.utf8Len, Base64.encode_size]
    omega
  have known : status ∉ [400, 401, 403, 404, 410, 416] ∧ (status = 200 ∨ status = 206) := by
    rcases whole with rfl | ⟨rfl, -⟩ <;> decide
  have complete : checkWhole status offset (lastOf offset) content.length = .ok () := by
    rcases whole with rfl | ⟨rfl, rfl, fits⟩
    · rfl
    · have bounded : content.length ≤ lastOf 0 + 1 := by omega
      simp only [checkWhole, if_true, Result.bind_eq_ok]
      exact ⟨(), checked_ok.mpr (ensure_ok.mpr trivial), _, top, checked_ok.mpr (ensure_ok.mpr bounded)⟩
  generalize sliced : rangeOf content (rangeAt artifactId offset) = slice at *
  have total : (asU64 ((honestAnswer sha256 content hubIdentity contentType status
      (rangeAt artifactId offset)).body.index "totalBytes")).filter
        (fun total => offset < total ∧ total ≤ mediaLimit) = some content.length := by
    have read : (honestAnswer sha256 content hubIdentity contentType status
      (rangeAt artifactId offset)).body.index "totalBytes" = .num content.length := rfl
    rw [read, asU64_num small]
    simp [Option.filter, inside, limit]
  simp only [decodeRemoteMedia, Result.bind_eq_ok, Result.pure_eq_ok]
  refine ⟨(), checked_ok.mpr (ensure_ok.mpr known.1), (), checked_ok.mpr (ensure_ok.mpr known.2),
    content.length, checked_ok.mpr (require_ok.mpr total), (), checked_ok.mpr (ensure_ok.mpr ?_),
    (), complete, (), checked_ok.mpr (ensure_ok.mpr ?_), Base64.encode slice,
    checked_ok.mpr (require_ok.mpr ?_), slice,
    checked_ok.mpr (require_ok.mpr (Base64.decode_encode slice)), _, top, _, least,
    (), checked_ok.mpr (ensure_ok.mpr ⟨rfl, ?_, ?_⟩), rfl⟩
  · have small : offset < 2 ^ 64 := by omega
    exact asU64_num small
  · have read : ((honestAnswer sha256 content hubIdentity contentType status
      (rangeAt artifactId offset)).body.index "contentType").asStr = some contentType := rfl
    simp [read, type]
  · have read : ((honestAnswer sha256 content hubIdentity contentType status
      (rangeAt artifactId offset)).body.index "dataBase64").asStr =
        some (Base64.encode slice) := by
      rw [← sliced]
      rfl
    simp [read, Option.filter, encoded]
  · have read : (honestAnswer sha256 content hubIdentity contentType status
      (rangeAt artifactId offset)).body.index "bytes" = .num slice.length := by
      rw [← sliced]
      rfl
    rw [read]
    exact asU64_num (by omega)
  · rw [← sliced]
    rfl

theorem receivePart_honest {index offset : Nat} {total : Option Nat}
    (honest : Honest sha256 content mimeType relay) (aligned : chunkSize ∣ offset)
    (inside : offset < content.length) (limit : content.length ≤ mediaLimit)
    (agrees : ∀ earlier, total = some earlier → earlier = content.length) :
    receivePart sha256 mimeType (rangeAt artifactId offset) total
        (relay index (rangeAt artifactId offset)) =
      .ok (⟨rangeAt artifactId offset, rangeOf content (rangeAt artifactId offset),
        content.length⟩, offset + (rangeOf content (rangeAt artifactId offset)).length) := by
  obtain ⟨hubIdentity, contentType, status, type, served, answer⟩ :=
    honest index (rangeAt artifactId offset) inside
  have whole : status = 206 ∨ status = 200 ∧ offset = 0 ∧ content.length ≤ chunkSize := by
    rcases served with ranged | ⟨entire, fits⟩
    · exact Or.inl ranged
    · have first : offset = 0 := Nat.eq_zero_of_dvd_of_lt aligned (by omega)
      exact Or.inr ⟨entire, first, fits⟩
  have same : total.all (· == content.length) = true := by
    cases total with
    | none => rfl
    | some earlier => simp [agrees earlier rfl]
  have added : u64Add offset (rangeOf content (rangeAt artifactId offset)).length =
      .ok (offset + (rangeOf content (rangeAt artifactId offset)).length) := by
    apply u64Add_eq
    simp only [rangeOf, List.length_take, List.length_drop]
    simp only [mediaLimit] at limit
    omega
  have decoded : decodeRemoteMedia sha256
      (honestAnswer sha256 content hubIdentity contentType status (rangeAt artifactId offset))
      (rangeAt artifactId offset).offset (rangeAt artifactId offset).last mimeType =
        .ok (rangeOf content (rangeAt artifactId offset), content.length) :=
    decodeRemoteMedia_honest inside limit type whole
  simp only [receivePart, answer, Result.bind_eq_ok, Result.pure_eq_ok, Prod.exists]
  exact ⟨_, checked_ok.mpr rfl, _, _, decoded, (), checked_ok.mpr (ensure_ok.mpr same), (),
    checked_ok.mpr (ensure_ok.mpr trivial), _, added, rfl⟩

/-- What is left of the content at an offset arrives, chunk by chunk. -/
theorem transferLoop_honest (honest : Honest sha256 content mimeType relay)
    (limit : content.length ≤ mediaLimit) (rounds : Nat) :
    ∀ (index offset : Nat) (total : Option Nat), chunkSize ∣ offset → offset < content.length →
      (∀ earlier, total = some earlier → earlier = content.length) →
      content.length ≤ offset + rounds * chunkSize →
      (transferLoop sha256 relay artifactId mimeType rounds index offset total).result = .ok () ∧
        (transferLoop sha256 relay artifactId mimeType rounds index offset total).written =
          content.drop offset := by
  induction rounds with
  | zero =>
      intro index offset total aligned inside agrees enough
      omega
  | succ rounds ih =>
      intro index offset total aligned inside agrees enough
      have below : offset < mediaLimit := by omega
      have last := lastOf_succ below
      have chunk := chunkSize_eq
      have received : receivePart sha256 mimeType (rangeAt artifactId offset) total
          (relay index (rangeAt artifactId offset)) = .ok (_, _) :=
        receivePart_honest honest aligned inside limit agrees
      have measured : (rangeOf content (rangeAt artifactId offset)).length =
          min chunkSize (content.length - offset) := by
        rw [rangeOf_length]
        generalize chunkSize = size at *
        generalize lastOf offset = final at *
        omega
      rw [transferLoop_succ below, received]
      dsimp only
      split
      · rename_i finished
        refine ⟨rfl, ?_⟩
        simp only [Transfer.written, List.flatMap_cons, List.flatMap_nil, List.append_nil]
        apply rangeOf_rest
        rw [measured] at finished
        generalize chunkSize = size at *
        generalize lastOf offset = final at *
        omega
      · rename_i finished
        have full : (rangeOf content (rangeAt artifactId offset)).length = chunkSize := by
          omega
        have more : offset + chunkSize < content.length := by
          omega
        have slice : rangeOf content (rangeAt artifactId offset) =
            (content.drop offset).take chunkSize := by
          have span : lastOf offset + 1 - offset = chunkSize := by omega
          rw [rangeOf, rangeAt_offset, rangeAt_last, span]
        rw [full]
        have enoughNext : content.length ≤ offset + chunkSize + rounds * chunkSize := by
          rw [Nat.succ_mul] at enough
          omega
        have alignedNext : chunkSize ∣ offset + chunkSize :=
          Nat.dvd_add aligned (Nat.dvd_refl chunkSize)
        obtain ⟨ok, rest⟩ := ih (index + 1) (offset + chunkSize) (some content.length)
          alignedNext more (by simp) enoughNext
        refine ⟨ok, ?_⟩
        have parts : ∀ (transfer : Transfer) (request : MediaRequest) (part : MediaPart),
            (transfer.after request part).written = part.bytes ++ transfer.written :=
          fun _ _ _ => rfl
        rw [parts, rest]
        dsimp only
        rw [slice, ← List.drop_drop, List.take_append_drop]

end

/-- A device that serves a content and says 200 for what fits into one chunk. -/
def plainDevice (sha256 : List UInt8 → String) (content : List UInt8) (mimeType : String)
    (_index : Nat) (request : MediaRequest) : MediaRound where
  answer := .ok (honestAnswer sha256 content "" mimeType
    (if content.length ≤ chunkSize then 200 else 206) request)
  written := true

theorem plainDevice_honest (sha256 : List UInt8 → String) (content : List UInt8)
    (mimeType : String) : Honest sha256 content mimeType (plainDevice sha256 content mimeType) := by
  intro index request inside
  refine ⟨"", mimeType, if content.length ≤ chunkSize then 200 else 206, rfl, ?_, rfl⟩
  split
  · rename_i fits
    exact Or.inr ⟨rfl, fits⟩
  · exact Or.inl rfl

/-! ## Downloads -/

/-- What holds of every transfer: no overflow, at most one request for each range below the size
limit, and a success only with the one artifact that the device reported, in order. -/
structure TransferExact (sha256 : List UInt8 → String) (relay : Nat → MediaRequest → MediaRound)
    (artifactId mimeType : String) (transfer : Transfer) : Prop where
  arithmetic : Sound transfer.result
  requests : transfer.requests.length ≤ 2731
  accepted : transfer.parts.length ≤ transfer.requests.length
  progress : ∀ part ∈ transfer.parts, part.bytes ≠ []
  complete : transfer.result = .ok () → ∃ size, 1 ≤ size ∧ size ≤ mediaLimit ∧
    Contiguous sha256 relay artifactId mimeType size 0 0 transfer.parts ∧
    transfer.written.length = size

theorem download_exact (sha256 : List UInt8 → String) (relay : Nat → MediaRequest → MediaRound)
    (file : CacheFile) (artifactId mimeType : String) (rounds : Nat) :
    TransferExact sha256 relay artifactId mimeType
      (downloadRemoteMediaArtifact sha256 relay file artifactId mimeType rounds) := by
  have below : 0 < mediaLimit := by decide
  simp only [downloadRemoteMediaArtifact]
  split
  · have requests : (transferLoop sha256 relay artifactId mimeType rounds 0 0
        none).requests.length ≤ rangesFrom 0 := transferLoop_requests rounds 0 0 none below
    have ranges : rangesFrom 0 = 2731 := by decide
    constructor
    · refine (transferLoop_sound rounds 0 0 none below).bind fun _ _ => ?_
      exact (checked_sound _).bind fun _ _ => checked_sound _
    · exact ranges ▸ requests
    · exact transferLoop_parts rounds 0 0 none
    · exact transferLoop_progress rounds 0 0 none below
    · intro ok
      obtain ⟨⟨⟩, looped, -⟩ := Result.bind_eq_ok.mp ok
      obtain ⟨size, -, positive, limit, contiguous⟩ :=
        transferLoop_ok rounds 0 0 none below looped
      refine ⟨size, positive, limit, contiguous, ?_⟩
      have length := contiguous.length
      simpa [Transfer.written] using length
  · exact ⟨by simp [Sound], by simp, by simp, by simp, by simp⟩

/-- Whatever the device answers, a download ends within 2731 requests and succeeds only with the
artifact as it was reported; from an honest device it fetches the content. -/
theorem media_transfer_is_exact (sha256 : List UInt8 → String) (artifactId mimeType : String) :
    (∀ relay file rounds, TransferExact sha256 relay artifactId mimeType
      (downloadRemoteMediaArtifact sha256 relay file artifactId mimeType rounds)) ∧
    (∀ relay file rounds, 2731 ≤ rounds →
      downloadRemoteMediaArtifact sha256 relay file artifactId mimeType rounds =
        downloadRemoteMediaArtifact sha256 relay file artifactId mimeType 2731) ∧
    ∀ content relay rounds, 1 ≤ content.length → content.length ≤ mediaLimit →
      Honest sha256 content mimeType relay → 2731 ≤ rounds →
      (downloadRemoteMediaArtifact sha256 relay ⟨true, true, true⟩ artifactId mimeType
          rounds).result = .ok () ∧
        (downloadRemoteMediaArtifact sha256 relay ⟨true, true, true⟩ artifactId mimeType
          rounds).written = content := by
  refine ⟨?_, ?_, ?_⟩
  · intro relay file rounds
    exact download_exact sha256 relay file artifactId mimeType rounds
  · intro relay file rounds enough
    obtain ⟨extra, rfl⟩ := Nat.exists_eq_add_of_le enough
    have ranges : rangesFrom 0 = 2731 := by decide
    have settled : transferLoop sha256 relay artifactId mimeType (2731 + extra) 0 0 none =
        transferLoop sha256 relay artifactId mimeType 2731 0 0 none :=
      transferLoop_settled extra 2731 0 0 none (by decide) (Nat.le_of_eq ranges)
    simp only [downloadRemoteMediaArtifact, settled]
  · intro content relay rounds positive limit honest enough
    have bound : content.length ≤ 0 + rounds * chunkSize := by
      simp only [chunkSize, mediaLimit] at limit ⊢
      omega
    obtain ⟨looped, written⟩ : (transferLoop sha256 relay artifactId mimeType rounds 0 0
          none).result = .ok () ∧
        (transferLoop sha256 relay artifactId mimeType rounds 0 0 none).written =
          content.drop 0 :=
      transferLoop_honest honest limit rounds 0 0 none (Nat.dvd_zero chunkSize) positive (by simp)
        bound
    constructor
    · simp only [downloadRemoteMediaArtifact, if_true, looped]
      rfl
    · exact written

example :
    (downloadRemoteMediaArtifact (fun _ => "") (plainDevice (fun _ => "") [77, 97, 110] "image/png")
      ⟨true, true, true⟩ "artifact" "image/png" 1).written = [77, 97, 110] := by
  with_unfolding_all decide

end HarborGate.HarborBeacon
