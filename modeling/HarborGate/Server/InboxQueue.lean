import HarborGate.Lib.Lease
import HarborGate.Server.Inbox
import Mathlib.Data.List.Nodup
import Mathlib.Data.List.Pairwise

/-!
Workers on the WhatsApp inbox: runs of `enqueue`, `claim_message` and `finish_message` under the
inbox lock. An item is a leased record whose token is the pair of its attempts and its claim time.
-/

namespace HarborGate

namespace Inbox

open Adapters

/-- A worker finishes a copy that an earlier claim returned; `index` counts the claims. -/
inductive QueueOp
  | enqueue (messages : List Json)
  | claim (oversized order : List String)
  | finish (index : Nat) (retry : Bool)

structure Turn where
  now : Int
  op : QueueOp

def Turn.returned (host : Host) (turn : Turn) (world : World) : Option Item :=
  match turn.op with
  | .claim oversized order => (claimRound host turn.now oversized order world.inbox).1
  | .enqueue _ | .finish _ _ => none

def Turn.apply (host : Host) (turn : Turn) (world : World) : World :=
  match turn.op with
  | .enqueue messages => { world with inbox := enqueue host turn.now messages world.inbox }
  | .claim oversized order =>
      let result := claimRound host turn.now oversized order world.inbox
      { inbox := result.2
        claimed := world.claimed ++ result.1.toList }
  | .finish index retry =>
      match world.claimed[index]? with
      | none => world
      | some item => { world with inbox := finishMessage turn.now item retry world.inbox }

def runTurns (host : Host) (turns : List Turn) (world : World) : World :=
  turns.foldl (fun world turn => turn.apply host world) world

/-- The part of the server's runs that touches the inbox. -/
def Moment.turn (host : Host) (moment : Moment) : Option Turn :=
  match moment.event with
  | .whatsappWebhook body signature =>
      match verifiedMessages host body signature with
      | .error _ => none
      | .ok messages => some ⟨moment.now, .enqueue messages⟩
  | .drain oversized order => some ⟨moment.now, .claim oversized order⟩
  | .finish index retry => some ⟨moment.now, .finish index retry⟩
  | _ => none

theorem Moment.apply_eq_turn (host : Host) (moment : Moment) (world : World) :
    moment.apply host world = ((moment.turn host).map (·.apply host world)).getD world := by
  cases chosen : moment.event with
  | whatsappWebhook body signature =>
      cases verified : verifiedMessages host body signature with
      | error _ => simp [Moment.turn, Moment.apply, chosen, verified]
      | ok messages => simp [Moment.turn, Moment.apply, Turn.apply, chosen, verified]
  | drain => simp [Moment.turn, Moment.apply, Turn.apply, chosen]
  | finish index retry =>
      cases found : world.claimed[index]? <;>
        simp [Moment.turn, Moment.apply, Turn.apply, chosen, found]
  | message | feishuWebhook | gatewayTurn | other | feishuSocket | weixinPoll =>
      simp [Moment.turn, Moment.apply, chosen]

theorem run_eq_runTurns (host : Host) (moments : List Moment) :
    run host moments = runTurns host (moments.filterMap (Moment.turn host)) .initial := by
  rw [run, runTurns]
  generalize World.initial = world
  induction moments generalizing world with
  | nil => rfl
  | cons moment rest ih =>
      rw [List.foldl_cons, ih, moment.apply_eq_turn, List.filterMap_cons]
      cases moment.turn host <;> rfl

/-! ## Single records -/

abbrev Token := Nat × Option Int

def Item.token (item : Item) : Token :=
  (item.attempts, item.claimedAt)

def Item.claim (item : Item) (now : Int) : Item :=
  { item with
    status := .running
    claimedAt := some now
    attempts := item.attempts + 1 }

def Item.close (item : Item) : Item :=
  { item with
    status := .done
    payload := .null }

def Item.release (item : Item) (retryAt : Int) : Item :=
  { item with
    status := .pending
    retryAt := some retryAt }

def Item.slot (item : Item) : Lease.Slot Token :=
  match item.status with
  | .pending => .free
  | .running => .held item.token (item.claimedAt.getD item.createdAt + 601)
  | .done => .closed (item.createdAt + 7 * 86400 + 1)

def slotOf (inbox : List Item) (id : String) : Lease.Slot Token :=
  match inbox.find? (·.id = id) with
  | none => .absent
  | some item => item.slot

theorem find_replace {inbox : List Item} {old : Item} (item : Item) (id : String)
    (found : inbox.find? (·.id = old.id) = some old) (same : item.id = old.id) :
    (replaceItem inbox item).find? (·.id = id) =
      if old.id = id then some item else inbox.find? (·.id = id) := by
  have ids : ((fun other : Item => decide (other.id = id)) ∘
      fun other => if other.id = item.id then item else other) = fun other => decide (other.id = id) := by
    funext other
    by_cases hit : other.id = item.id <;> simp [hit]
  rw [replaceItem, List.find?_map, ids]
  by_cases asked : old.id = id
  · rw [← asked, found, if_pos rfl]
    simp [same]
  · rw [if_neg asked]
    cases other : inbox.find? (·.id = id) with
    | none => rfl
    | some kept =>
        have named : kept.id = id := by simpa using List.find?_some other
        simp [named, same, Ne.symm asked]

theorem find_remove (inbox : List Item) (gone id : String) :
    (inbox.filter (·.id ≠ gone)).find? (·.id = id) =
      if gone = id then none else inbox.find? (·.id = id) := by
  rw [List.find?_filter]
  by_cases asked : gone = id
  · have none : inbox.find? (fun item => decide (item.id ≠ gone ∧ item.id = id)) = none := by
      simp [asked]
    simp only [decide_eq_true_eq]
    rw [none, if_pos asked]
  · rw [if_neg asked]
    congr 1
    funext item
    by_cases same : item.id = id <;> simp [same, Ne.symm asked]

theorem find_append {inbox : List Item} {item : Item} (id : String)
    (absent : inbox.any (·.id = item.id) = false) :
    (inbox ++ [item]).find? (·.id = id) =
      if item.id = id then some item else inbox.find? (·.id = id) := by
  rw [List.find?_append]
  by_cases asked : item.id = id
  · have none : inbox.find? (·.id = id) = none := by
      simpa [asked] using absent
    simp [none, asked]
  · simp [asked]

theorem slotOf_replace {inbox : List Item} {old : Item} (item : Item) (id : String)
    (found : inbox.find? (·.id = old.id) = some old) (same : item.id = old.id) :
    slotOf (replaceItem inbox item) id = if old.id = id then item.slot else slotOf inbox id := by
  rw [slotOf, find_replace item id found same]
  by_cases asked : old.id = id <;> simp [asked, slotOf]

theorem slotOf_remove (inbox : List Item) (gone id : String) :
    slotOf (inbox.filter (·.id ≠ gone)) id = if gone = id then .absent else slotOf inbox id := by
  rw [slotOf, find_remove]
  by_cases asked : gone = id <;> simp [asked, slotOf]

theorem slotOf_append {inbox : List Item} {item : Item} (id : String)
    (absent : inbox.any (·.id = item.id) = false) :
    slotOf (inbox ++ [item]) id = if item.id = id then item.slot else slotOf inbox id := by
  rw [slotOf, find_append id absent]
  by_cases asked : item.id = id <;> simp [asked, slotOf]

theorem slotOf_present {inbox : List Item} {item : Item}
    (found : inbox.find? (·.id = item.id) = some item) : slotOf inbox item.id = item.slot := by
  rw [slotOf, found]

/-! ## What an operation may do -/

/-- The record is named after the message that its payload stands for. -/
def Named (host : Host) (item : Item) : Prop :=
  ∃ inbound, WhatsApp.normalizeInbound host.whatsapp host.formats item.payload = .ok inbound ∧
    item.id = host.itemId host.whatsapp.phoneNumberId inbound.messageId

/-- One change of one record, with the label it has as a step of a lease. -/
inductive Change (host : Host) (now : Int) (inbox : List Item) :
    String → Lease.Label Token → List Item → Prop
  | add {item : Item} (absent : inbox.any (·.id = item.id) = false)
      (pending : item.status = .pending) (created : item.createdAt = now)
      (named : Named host item) : Change host now inbox item.id .idle (inbox ++ [item])
  | remove {item : Item} (found : inbox.find? (·.id = item.id) = some item)
      (done : item.status = .done) (old : item.createdAt < now - 7 * 86400) :
      Change host now inbox item.id .idle (inbox.filter (·.id ≠ item.id))
  | close {item : Item} (found : inbox.find? (·.id = item.id) = some item)
      (live : item.status ≠ .done) :
      Change host now inbox item.id .idle (replaceItem inbox item.close)
  | claim {item : Item} (found : inbox.find? (·.id = item.id) = some item)
      (young : now - 86400 ≤ item.createdAt)
      (free : item.status = .pending ∨
        item.status = .running ∧ item.claimedAt.getD now < now - 600) :
      Change host now inbox item.id (.claim (item.claim now).token)
        (replaceItem inbox (item.claim now))
  | release {item : Item} (retryAt : Int) (found : inbox.find? (·.id = item.id) = some item)
      (running : item.status = .running) :
      Change host now inbox item.id (.release item.token)
        (replaceItem inbox (item.release retryAt))

inductive Changes (host : Host) (now : Int) :
    List Item → List (String × Lease.Label Token) → List Item → Prop
  | nil (inbox : List Item) : Changes host now inbox [] inbox
  | cons {inbox middle last : List Item} {id : String} {label : Lease.Label Token}
      {trace : List (String × Lease.Label Token)} (change : Change host now inbox id label middle)
      (rest : Changes host now middle trace last) :
      Changes host now inbox ((id, label) :: trace) last

structure Sound (host : Host) (now : Int) (inbox : List Item) : Prop where
  distinct : (inbox.map (·.id)).Nodup
  created : ∀ item ∈ inbox, item.createdAt ≤ now
  leased : ∀ item ∈ inbox, item.status = .running → ∃ since, item.claimedAt = some since ∧
    item.createdAt ≤ since ∧ since ≤ item.createdAt + 86400
  named : ∀ item ∈ inbox, item.status ≠ .done → Named host item

theorem Sound.later {host : Host} {now later : Int} {inbox : List Item}
    (sound : Sound host now inbox) (after : now ≤ later) : Sound host later inbox where
  distinct := sound.distinct
  created item member := Int.le_trans (sound.created item member) after
  leased := sound.leased
  named := sound.named

theorem Sound.find {host : Host} {now : Int} {inbox : List Item} {item : Item}
    (sound : Sound host now inbox) (member : item ∈ inbox) :
    inbox.find? (·.id = item.id) = some item := by
  cases found : inbox.find? (·.id = item.id) with
  | none =>
      have absent := List.find?_eq_none.mp found item member
      simp at absent
  | some other =>
      have named : other.id = item.id := by simpa using List.find?_some found
      have there := List.mem_of_find?_eq_some found
      rw [List.inj_on_of_nodup_map sound.distinct there member named]

theorem replaceItem_ids (inbox : List Item) (item : Item) :
    (replaceItem inbox item).map (·.id) = inbox.map (·.id) := by
  rw [replaceItem, List.map_map]
  refine List.map_congr_left fun other _ => ?_
  by_cases same : other.id = item.id <;> simp [same]

theorem mem_replaceItem {inbox : List Item} {item other : Item}
    (member : other ∈ replaceItem inbox item) : other = item ∨ other ∈ inbox := by
  obtain ⟨old, there, rfl⟩ := List.mem_map.mp member
  by_cases same : old.id = item.id
  · exact .inl (if_pos same)
  · rw [if_neg same]
    exact .inr there

theorem Sound.replace {host : Host} {now : Int} {inbox : List Item} {item : Item}
    (sound : Sound host now inbox) (created : item.createdAt ≤ now)
    (leased : item.status = .running → ∃ since, item.claimedAt = some since ∧
      item.createdAt ≤ since ∧ since ≤ item.createdAt + 86400)
    (named : item.status ≠ .done → Named host item) :
    Sound host now (replaceItem inbox item) where
  distinct := by
    rw [replaceItem_ids]
    exact sound.distinct
  created other member := by
    rcases mem_replaceItem member with rfl | old
    · exact created
    · exact sound.created other old
  leased other member running := by
    rcases mem_replaceItem member with rfl | old
    · exact leased running
    · exact sound.leased other old running
  named other member live := by
    rcases mem_replaceItem member with rfl | old
    · exact named live
    · exact sound.named other old live

theorem Change.sound {host : Host} {now : Int} {inbox last : List Item} {id : String}
    {label : Lease.Label Token} (change : Change host now inbox id label last)
    (sound : Sound host now inbox) : Sound host now last := by
  cases change with
  | @add item absent pending created named =>
      constructor
      · rw [List.map_append, List.nodup_append]
        refine ⟨sound.distinct, by simp, ?_⟩
        intro old there new fresh same
        obtain ⟨other, member, rfl⟩ := List.mem_map.mp there
        obtain rfl := List.mem_singleton.mp fresh
        simp only [List.any_eq_false, decide_eq_true_eq] at absent
        exact absent other member same
      · intro other member
        rcases List.mem_append.mp member with old | new
        · exact sound.created other old
        · obtain rfl := List.mem_singleton.mp new
          omega
      · intro other member running
        rcases List.mem_append.mp member with old | new
        · exact sound.leased other old running
        · obtain rfl := List.mem_singleton.mp new
          simp [pending] at running
      · intro other member live
        rcases List.mem_append.mp member with old | new
        · exact sound.named other old live
        · obtain rfl := List.mem_singleton.mp new
          exact named
  | remove found done old =>
      constructor
      · exact sound.distinct.sublist (List.Sublist.map _ List.filter_sublist)
      · exact fun other member => sound.created other (List.mem_filter.mp member).1
      · exact fun other member => sound.leased other (List.mem_filter.mp member).1
      · exact fun other member => sound.named other (List.mem_filter.mp member).1
  | @close item found live =>
      have member := List.mem_of_find?_eq_some found
      exact sound.replace (sound.created item member) (by simp [Item.close]) (by simp [Item.close])
  | @claim item found young free =>
      have member := List.mem_of_find?_eq_some found
      have created := sound.created item member
      refine sound.replace created (fun _ => ⟨now, rfl, created, ?_⟩) fun _ => ?_
      · simp only [Item.claim]
        omega
      · refine sound.named item member ?_
        rcases free with pending | ⟨running, -⟩
        · simp [pending]
        · simp [running]
  | @release item retryAt found running =>
      have member := List.mem_of_find?_eq_some found
      exact sound.replace (sound.created item member) (by simp [Item.release])
        fun _ => sound.named item member (by simp [running])

/-- Every change is a step of the lease of its record and leaves the other records alone. -/
theorem Change.step {host : Host} {now : Int} {inbox last : List Item} {id : String}
    {label : Lease.Label Token} (change : Change host now inbox id label last)
    (sound : Sound host now inbox) (key : String) :
    Lease.Step now (slotOf inbox key) (if id = key then label else .idle) (slotOf last key) := by
  by_cases asked : id = key
  · subst asked
    rw [if_pos rfl]
    cases change with
    | @add item absent pending created named =>
        have none : inbox.find? (·.id = item.id) = none := by simpa using absent
        rw [slotOf_append item.id absent, if_pos rfl, slotOf, none]
        simp only [Item.slot, pending]
        exact .add
    | @remove item found done old =>
        rw [slotOf_present found, slotOf_remove, if_pos rfl]
        simp only [Item.slot, done]
        exact .remove (by omega)
    | @close item found live =>
        rw [slotOf_present found, slotOf_replace item.close _ found rfl, if_pos rfl]
        cases status : item.status with
        | pending =>
            simp only [Item.slot, Item.close, status]
            exact .drop _
        | running =>
            obtain ⟨since, claimed, -, bound⟩ :=
              sound.leased item (List.mem_of_find?_eq_some found) status
            simp only [Item.slot, Item.close, status]
            refine .close _ ?_
            rw [claimed]
            simp only [Option.getD_some]
            omega
        | done => exact absurd status live
    | @claim item found young free =>
        rw [slotOf_present found, slotOf_replace (item.claim now) _ found rfl, if_pos rfl]
        rcases free with pending | ⟨running, expired⟩
        · simp only [Item.slot, Item.claim, pending]
          exact .claim _ _
        · obtain ⟨since, claimed, -⟩ := sound.leased item (List.mem_of_find?_eq_some found) running
          simp only [Item.slot, Item.claim, running]
          refine .reclaim _ _ ?_
          rw [claimed] at expired ⊢
          simp only [Option.getD_some] at expired ⊢
          omega
    | @release item retryAt found running =>
        rw [slotOf_present found, slotOf_replace (item.release retryAt) _ found rfl, if_pos rfl]
        simp only [Item.slot, Item.release, running]
        exact .release _ _
  · have unchanged : slotOf last key = slotOf inbox key := by
      cases change with
      | add absent => rw [slotOf_append key absent, if_neg asked]
      | remove => rw [slotOf_remove, if_neg asked]
      | @close item found => rw [slotOf_replace item.close key found rfl, if_neg asked]
      | @claim item found => rw [slotOf_replace (item.claim now) key found rfl, if_neg asked]
      | @release item retryAt found =>
          rw [slotOf_replace (item.release retryAt) key found rfl, if_neg asked]
    rw [if_neg asked, unchanged]
    exact .stay _

theorem Changes.sound {host : Host} {now : Int} {inbox last : List Item}
    {trace : List (String × Lease.Label Token)} (changes : Changes host now inbox trace last)
    (sound : Sound host now inbox) : Sound host now last := by
  induction changes with
  | nil => exact sound
  | cons change _ ih => exact ih (change.sound sound)

/-- The steps of one record's lease. -/
def entries (now : Int) (key : String) (trace : List (String × Lease.Label Token)) :
    List (Lease.Entry Token) :=
  trace.map fun change => ⟨now, if change.1 = key then change.2 else .idle⟩

theorem Changes.run {host : Host} {now : Int} {inbox last : List Item}
    {trace : List (String × Lease.Label Token)} (changes : Changes host now inbox trace last)
    (sound : Sound host now inbox) (key : String) :
    Lease.Run (slotOf inbox key) (entries now key trace) (slotOf last key) := by
  induction changes with
  | nil => exact .nil _
  | cons change _ ih => exact .cons (change.step sound key) (ih (change.sound sound))

/-! ## The operations -/

theorem enqueue_changes (host : Host) (now : Int) (messages : List Json) (inbox : List Item) :
    ∃ trace, Changes host now inbox trace (enqueue host now messages inbox) ∧
      ∀ change ∈ trace, change.2 = .idle := by
  induction messages generalizing inbox with
  | nil => exact ⟨[], .nil inbox, by simp⟩
  | cons payload rest ih =>
      simp only [enqueue]
      split
      · exact ⟨[], .nil inbox, by simp⟩
      · rename_i inbound normalized
        by_cases present :
            inbox.any (·.id = host.itemId host.whatsapp.phoneNumberId inbound.messageId) = true
        · rw [if_pos present]
          exact ih inbox
        · rw [if_neg present]
          split
          · exact ⟨[], .nil inbox, by simp⟩
          · obtain ⟨trace, changes, idle⟩ := ih (inbox ++ [{
              id := host.itemId host.whatsapp.phoneNumberId inbound.messageId
              status := .pending
              createdAt := now
              attempts := 0
              claimedAt := none
              retryAt := none
              payload }])
            refine ⟨_ :: trace, .cons (.add ?_ rfl rfl ⟨inbound, normalized, rfl⟩) changes, ?_⟩
            · simpa using present
            · simpa using idle

/-- A round closes and removes records, and then it may claim one. -/
theorem claimMessage_changes (host : Host) (now : Int) (oversized order : List String)
    (inbox : List Item) :
    ∃ trace middle, (∀ change ∈ trace, change.2 = .idle) ∧ Changes host now inbox trace middle ∧
      (claimMessage now oversized order inbox = (none, middle) ∨
        ∃ item, middle.find? (·.id = item.id) = some item ∧ now - 86400 ≤ item.createdAt ∧
          (item.status = .pending ∨ item.status = .running ∧ item.claimedAt.getD now < now - 600) ∧
          claimMessage now oversized order inbox =
            (some (item.claim now), replaceItem middle (item.claim now))) := by
  induction order generalizing inbox with
  | nil => exact ⟨[], inbox, by simp, .nil inbox, .inl rfl⟩
  | cons id rest ih =>
      simp only [claimMessage]
      split
      · exact ih inbox
      · rename_i item found
        have named : item.id = id := by simpa using List.find?_some found
        subst named
        split
        · exact ih inbox
        split
        · rename_i old
          obtain ⟨trace, middle, idle, changes, result⟩ := ih (inbox.filter (·.id ≠ item.id))
          exact ⟨(item.id, .idle) :: trace, middle, by simpa using idle,
            .cons (.remove found old.2 old.1) changes, result⟩
        split
        · rename_i spent
          obtain ⟨trace, middle, idle, changes, result⟩ := ih (replaceItem inbox item.close)
          exact ⟨(item.id, .idle) :: trace, middle, by simpa using idle,
            .cons (.close found spent.1) changes, result⟩
        split
        · rename_i young free
          have live : item.status ≠ .done := by
            rcases free.1 with pending | ⟨running, -⟩
            · simp [pending]
            · simp [running]
          have recent : now - 86400 ≤ item.createdAt := by
            by_contra old
            exact young ⟨live, .inl (by omega)⟩
          exact ⟨[], inbox, by simp, .nil inbox, .inr ⟨item, found, recent, free.1, rfl⟩⟩
        · exact ih inbox

/-- A result changes the inbox only while the record is the copy that the claim returned. -/
theorem finishMessage_changes (host : Host) (now : Int) {item : Item} (retry : Bool)
    {inbox : List Item}
    (copy : ∀ current, inbox.find? (·.id = item.id) = some current → current.status = .running →
      current.token = item.token → current = item) :
    finishMessage now item retry inbox = inbox ∨
      inbox.find? (·.id = item.id) = some item ∧ item.status = .running ∧
        Changes host now inbox
          [(item.id, if retry then .release item.token else .idle)]
          (finishMessage now item retry inbox) := by
  simp only [finishMessage]
  split
  · exact .inl rfl
  · rename_i current found
    split
    · exact .inl rfl
    · rename_i fenced
      have running : current.status = .running := by
        by_contra other
        exact fenced (.inl other)
      have token : current.token = item.token := by
        have attempts : current.attempts = item.attempts := by
          by_contra other
          exact fenced (.inr (.inl other))
        have since : current.claimedAt = item.claimedAt := by
          by_contra other
          exact fenced (.inr (.inr other))
        rw [Item.token, Item.token, attempts, since]
      obtain rfl := copy current found running token
      refine .inr ⟨found, running, ?_⟩
      cases retry with
      | true => exact .cons (.release _ found running) (.nil _)
      | false =>
          have live : current.status ≠ .done := by simp [running]
          exact .cons (.close found live) (.nil _)

/-! ## Claims and their copies -/

/-- Where the inbox stands after a claim: the record is the one that was claimed, or it was removed
and made anew, and then later than the claim. -/
def Past (now : Int) (inbox : List Item) (claim : Item) : Prop :=
  ∃ since, claim.claimedAt = some since ∧ since ≤ claim.createdAt + 86400 ∧ since ≤ now ∧
    match inbox.find? (·.id = claim.id) with
    | none => since < now
    | some item =>
        item.createdAt = claim.createdAt ∧ claim.attempts ≤ item.attempts ∨ since < item.createdAt

theorem Past.later {now later : Int} {inbox : List Item} {claim : Item}
    (past : Past now inbox claim) (after : now ≤ later) : Past later inbox claim := by
  obtain ⟨since, claimed, bound, before, standing⟩ := past
  refine ⟨since, claimed, bound, by omega, ?_⟩
  split at standing
  · omega
  · exact standing

theorem Past.change {host : Host} {now : Int} {inbox last : List Item} {id : String}
    {label : Lease.Label Token} {claim : Item} (change : Change host now inbox id label last)
    (past : Past now inbox claim) : Past now last claim := by
  obtain ⟨since, claimed, bound, before, standing⟩ := past
  refine ⟨since, claimed, bound, before, ?_⟩
  cases change with
  | @add item absent pending created named =>
      rw [find_append claim.id absent]
      by_cases same : item.id = claim.id
      · have none : inbox.find? (·.id = claim.id) = none := by simpa [same] using absent
        rw [none] at standing
        rw [if_pos same]
        exact .inr (by simp only at standing; omega)
      · rw [if_neg same]
        exact standing
  | @remove item found done old =>
      rw [find_remove]
      by_cases same : item.id = claim.id
      · rw [← same, found] at standing
        rw [if_pos same]
        rcases standing with ⟨created, -⟩ | after
        · show since < now
          omega
        · show since < now
          omega
      · rw [if_neg same]
        exact standing
  | @close item found live =>
      rw [find_replace item.close claim.id found rfl]
      by_cases same : item.id = claim.id
      · rw [← same, found] at standing
        rw [if_pos same]
        exact standing
      · rw [if_neg same]
        exact standing
  | @claim item found young free =>
      rw [find_replace (item.claim now) claim.id found rfl]
      by_cases same : item.id = claim.id
      · rw [← same, found] at standing
        rw [if_pos same]
        rcases standing with ⟨created, attempts⟩ | after
        · exact .inl ⟨created, by simp only [Item.claim]; omega⟩
        · exact .inr after
      · rw [if_neg same]
        exact standing
  | @release item retryAt found running =>
      rw [find_replace (item.release retryAt) claim.id found rfl]
      by_cases same : item.id = claim.id
      · rw [← same, found] at standing
        rw [if_pos same]
        exact standing
      · rw [if_neg same]
        exact standing

/-- The invariant of a run: the running records are copies that were returned, and the claims of
one record have different tokens. -/
structure Guarded (host : Host) (now : Int) (world : World) : Prop where
  sound : Sound host now world.inbox
  past : ∀ claim ∈ world.claimed, Past now world.inbox claim
  copies : ∀ item ∈ world.inbox, item.status = .running → item ∈ world.claimed
  tokens : world.claimed.Pairwise fun first second =>
    first.id = second.id → first.token ≠ second.token

theorem Guarded.later {host : Host} {now later : Int} {world : World}
    (guarded : Guarded host now world) (after : now ≤ later) : Guarded host later world where
  sound := guarded.sound.later after
  past claim member := (guarded.past claim member).later after
  copies := guarded.copies
  tokens := guarded.tokens

/-- A change that claims nothing. -/
theorem Guarded.change {host : Host} {now : Int} {world : World} {last : List Item} {id : String}
    {label : Lease.Label Token} (guarded : Guarded host now world)
    (change : Change host now world.inbox id label last) (quiet : ∀ token, label ≠ .claim token) :
    Guarded host now { world with inbox := last } where
  sound := change.sound guarded.sound
  past claim member := (guarded.past claim member).change change
  copies other member running := by
    cases change with
    | add absent pending =>
        rcases List.mem_append.mp member with old | new
        · exact guarded.copies other old running
        · obtain rfl := List.mem_singleton.mp new
          simp [pending] at running
    | remove => exact guarded.copies other (List.mem_filter.mp member).1 running
    | close =>
        rcases mem_replaceItem member with rfl | old
        · simp [Item.close] at running
        · exact guarded.copies other old running
    | claim => exact absurd rfl (quiet _)
    | release =>
        rcases mem_replaceItem member with rfl | old
        · simp [Item.release] at running
        · exact guarded.copies other old running
  tokens := guarded.tokens

/-- The token of a new claim is one that no earlier claim of the record had. -/
theorem Guarded.fresh {host : Host} {now : Int} {world : World} {item claim : Item}
    (guarded : Guarded host now world) (found : world.inbox.find? (·.id = item.id) = some item)
    (member : claim ∈ world.claimed) (same : claim.id = item.id) :
    claim.token ≠ (item.claim now).token := by
  obtain ⟨since, claimed, -, -, standing⟩ := guarded.past claim member
  have created := guarded.sound.created item (List.mem_of_find?_eq_some found)
  rw [same, found] at standing
  intro equal
  have attempts : claim.attempts = item.attempts + 1 := congrArg Prod.fst equal
  have moments : claim.claimedAt = some now := congrArg Prod.snd equal
  rw [claimed] at moments
  obtain rfl := Option.some.inj moments
  rcases standing with ⟨-, fewer⟩ | after <;> omega

theorem Guarded.claim {host : Host} {now : Int} {world : World} {item : Item}
    (guarded : Guarded host now world) (found : world.inbox.find? (·.id = item.id) = some item)
    (young : now - 86400 ≤ item.createdAt)
    (free : item.status = .pending ∨
      item.status = .running ∧ item.claimedAt.getD now < now - 600) :
    Guarded host now
      { inbox := replaceItem world.inbox (item.claim now)
        claimed := world.claimed ++ [item.claim now] } where
  sound := (Change.claim found young free).sound guarded.sound
  past claim member := by
    rcases List.mem_append.mp member with old | new
    · have change : Change host now world.inbox item.id _ (replaceItem world.inbox (item.claim now)) :=
        .claim found young free
      exact (guarded.past claim old).change change
    · obtain rfl := List.mem_singleton.mp new
      have here : (replaceItem world.inbox (item.claim now)).find? (·.id = (item.claim now).id) =
          some (item.claim now) := by
        rw [find_replace (item.claim now) _ found rfl]
        exact if_pos rfl
      refine ⟨now, rfl, by simp only [Item.claim]; omega, Int.le_refl now, ?_⟩
      rw [here]
      exact .inl ⟨rfl, Nat.le_refl _⟩
  copies other member running := by
    rcases mem_replaceItem member with rfl | old
    · exact List.mem_append_right _ List.mem_cons_self
    · exact List.mem_append_left _ (guarded.copies other old running)
  tokens := by
    rw [List.pairwise_append]
    refine ⟨guarded.tokens, by simp, ?_⟩
    intro earlier member later new same
    obtain rfl := List.mem_singleton.mp new
    exact guarded.fresh found member same

theorem Changes.append {host : Host} {now : Int} {inbox middle last : List Item}
    {before after : List (String × Lease.Label Token)}
    (left : Changes host now inbox before middle) (right : Changes host now middle after last) :
    Changes host now inbox (before ++ after) last := by
  induction left with
  | nil => exact right
  | cons change _ ih => exact .cons change (ih right)

theorem Guarded.changes {host : Host} {now : Int} {inbox last : List Item} {claimed : List Item}
    {trace : List (String × Lease.Label Token)} (changes : Changes host now inbox trace last)
    (guarded : Guarded host now ⟨inbox, claimed⟩)
    (quiet : ∀ change ∈ trace, ∀ token, change.2 ≠ .claim token) :
    Guarded host now ⟨last, claimed⟩ := by
  induction changes with
  | nil => exact guarded
  | cons change _ ih =>
      exact ih (guarded.change change (quiet _ List.mem_cons_self))
        fun other member => quiet other (List.mem_cons_of_mem _ member)

theorem Guarded.unique {host : Host} {now : Int} {world : World} {first second : Item}
    (guarded : Guarded host now world) (left : first ∈ world.claimed)
    (right : second ∈ world.claimed) (same : first.id = second.id)
    (token : first.token = second.token) : first = second := by
  have symmetric : Std.Symm fun first second : Item =>
      first.id = second.id → first.token ≠ second.token :=
    ⟨fun _ _ distinct same equal => distinct same.symm equal.symm⟩
  by_contra different
  exact guarded.tokens.forall left right different same token

/-- The claimed copy of a record that is still held under the copy's token. -/
theorem Guarded.copy {host : Host} {now : Int} {world : World} {item current : Item}
    (guarded : Guarded host now world) (member : item ∈ world.claimed)
    (found : world.inbox.find? (·.id = item.id) = some current) (running : current.status = .running)
    (token : current.token = item.token) : current = item := by
  have named : current.id = item.id := by simpa using List.find?_some found
  have copied := guarded.copies current (List.mem_of_find?_eq_some found) running
  exact guarded.unique copied member named token

/-! ## Turns -/

/-- The finish with retry of the claim that returned the item, while the claim holds the record. -/
def Turn.GivesBack (turn : Turn) (world : World) (item : Item) : Prop :=
  ∃ index, turn.op = .finish index true ∧ world.claimed[index]? = some item ∧ item ∈ world.inbox

theorem claimRound_changes (host : Host) (now : Int) (oversized order : List String)
    (inbox : List Item) :
    ∃ trace middle, (∀ change ∈ trace, change.2 = .idle) ∧ Changes host now inbox trace middle ∧
      (claimRound host now oversized order inbox = (none, middle) ∨
        ∃ item, middle.find? (·.id = item.id) = some item ∧ now - 86400 ≤ item.createdAt ∧
          (item.status = .pending ∨ item.status = .running ∧ item.claimedAt.getD now < now - 600) ∧
          claimRound host now oversized order inbox =
            (some (item.claim now), replaceItem middle (item.claim now))) := by
  rw [claimRound]
  split
  · exact claimMessage_changes host now oversized order inbox
  · exact ⟨[], inbox, by simp, .nil inbox, .inl rfl⟩

/-- What a turn may do: the changes it makes, each quiet or the turn's own claim or release. -/
theorem Guarded.turn {host : Host} {world : World} (turn : Turn)
    (guarded : Guarded host turn.now world) :
    Guarded host turn.now (turn.apply host world) ∧
      ∃ trace, Changes host turn.now world.inbox trace (turn.apply host world).inbox ∧
        (∀ item, turn.returned host world = some item →
          (item.id, Lease.Label.claim item.token) ∈ trace) ∧
        ∀ change ∈ trace, change.2 = .idle ∨
          (∃ item, turn.GivesBack world item ∧ change = (item.id, .release item.token)) ∨
          ∃ item, turn.returned host world = some item ∧
            change = (item.id, .claim item.token) := by
  obtain ⟨now, op⟩ := turn
  cases op with
  | enqueue messages =>
      obtain ⟨trace, changes, idle⟩ := enqueue_changes host now messages world.inbox
      exact ⟨guarded.changes changes fun change member token => by simp [idle change member],
        trace, changes, by simp [Turn.returned], fun change member => .inl (idle change member)⟩
  | claim oversized order =>
      obtain ⟨trace, middle, idle, changes, result⟩ :=
        claimRound_changes host now oversized order world.inbox
      have quiet : Guarded host now ⟨middle, world.claimed⟩ :=
        guarded.changes changes fun change member token => by simp [idle change member]
      rcases result with same | ⟨item, found, young, free, same⟩
      · refine ⟨by simpa [Turn.apply, same] using quiet, trace, ?_, ?_, ?_⟩
        · simpa [Turn.apply, same] using changes
        · simp [Turn.returned, same]
        · exact fun change member => .inl (idle change member)
      · refine ⟨by simpa [Turn.apply, same] using quiet.claim found young free,
          trace ++ [(item.id, .claim (item.claim now).token)], ?_, ?_, ?_⟩
        · simpa [Turn.apply, same] using changes.append (.cons (.claim found young free) (.nil _))
        · intro copy returned
          simp only [Turn.returned, same, Option.some.injEq] at returned
          subst returned
          simp [Item.claim]
        · intro change member
          rcases List.mem_append.mp member with old | new
          · exact .inl (idle change old)
          · obtain rfl := List.mem_singleton.mp new
            exact .inr (.inr ⟨item.claim now, by simp [Turn.returned, same], rfl⟩)
  | finish index retry =>
      cases known : world.claimed[index]? with
      | none =>
          have unchanged : Turn.apply host ⟨now, .finish index retry⟩ world = world := by
            simp [Turn.apply, known]
          rw [unchanged]
          exact ⟨guarded, [], .nil _, by simp [Turn.returned], by simp⟩
      | some item =>
          have applied : Turn.apply host ⟨now, .finish index retry⟩ world =
              ⟨finishMessage now item retry world.inbox, world.claimed⟩ := by
            simp [Turn.apply, known]
          rw [applied]
          have member := List.mem_of_getElem? known
          rcases finishMessage_changes host now retry fun current found running token =>
              guarded.copy member found running token with same | ⟨found, running, changes⟩
          · rw [same]
            exact ⟨guarded, [], .nil _, by simp [Turn.returned], by simp⟩
          · refine ⟨guarded.changes changes ?_, _, changes, by simp [Turn.returned], ?_⟩
            · intro change there token
              obtain rfl := List.mem_singleton.mp there
              cases retry <;> simp
            · intro change there
              obtain rfl := List.mem_singleton.mp there
              cases retry with
              | true =>
                  exact .inr (.inl ⟨item, ⟨index, rfl, known, List.mem_of_find?_eq_some found⟩, rfl⟩)
              | false => exact .inl rfl

theorem Turn.returned_copy {host : Host} {turn : Turn} {world : World} {item : Item}
    (returned : turn.returned host world = some item) :
    item.claimedAt = some turn.now ∧ slotOf (turn.apply host world).inbox item.id =
      .held item.token (turn.now + 601) ∧
      (turn.apply host world).claimed = world.claimed ++ [item] := by
  obtain ⟨now, op⟩ := turn
  cases op with
  | enqueue | finish => simp [Turn.returned] at returned
  | claim oversized order =>
      simp only [Turn.returned] at returned
      obtain ⟨-, middle, -, -, same | ⟨old, found, -, -, same⟩⟩ :=
        claimRound_changes host now oversized order world.inbox
      · rw [same] at returned
        simp at returned
      · rw [same] at returned
        obtain rfl := Option.some.inj returned
        refine ⟨rfl, ?_, by simp [Turn.apply, same]⟩
        simp only [Turn.apply, same]
        have here := slotOf_replace (old.claim now) (old.claim now).id found rfl
        rw [here]
        exact if_pos rfl

theorem Guarded.apply {host : Host} {world : World} (turn : Turn)
    (guarded : Guarded host turn.now world) : Guarded host turn.now (turn.apply host world) :=
  (guarded.turn turn).1

theorem guarded_initial (host : Host) (now : Int) : Guarded host now .initial where
  sound := by
    constructor <;> simp [World.initial]
  past := by simp [World.initial]
  copies := by simp [World.initial]
  tokens := by simp [World.initial]

theorem runTurns_append (host : Host) (before after : List Turn) (world : World) :
    runTurns host (before ++ after) world = runTurns host after (runTurns host before world) := by
  simp [runTurns]

theorem runTurns_cons (host : Host) (turn : Turn) (rest : List Turn) (world : World) :
    runTurns host (turn :: rest) world = runTurns host rest (turn.apply host world) := rfl

theorem Guarded.run {host : Host} {now later : Int} {world : World} {turns : List Turn}
    (guarded : Guarded host now world)
    (ordered : (turns.map (·.now)).Pairwise (· ≤ ·)) (after : ∀ turn ∈ turns, now ≤ turn.now)
    (start : now ≤ later) (before : ∀ turn ∈ turns, turn.now ≤ later) :
    Guarded host later (runTurns host turns world) := by
  induction turns generalizing now world with
  | nil => exact guarded.later start
  | cons turn rest ih =>
      rw [List.map_cons, List.pairwise_cons] at ordered
      have here : Guarded host turn.now world := guarded.later (after turn List.mem_cons_self)
      rw [runTurns_cons]
      exact ih (here.apply turn) ordered.2
        (fun other member => ordered.1 other.now (List.mem_map_of_mem member))
        (before turn List.mem_cons_self) fun other member => before other (List.mem_cons_of_mem _ member)

theorem guarded_run (host : Host) {later : Int} {turns : List Turn}
    (ordered : (turns.map (·.now)).Pairwise (· ≤ ·)) (before : ∀ turn ∈ turns, turn.now ≤ later) :
    Guarded host later (runTurns host turns .initial) := by
  cases turns with
  | nil => exact guarded_initial host later
  | cons turn rest =>
      refine (guarded_initial host turn.now).run ordered ?_ (before turn List.mem_cons_self) before
      intro other member
      rcases List.mem_cons.mp member with rfl | later
      · exact Int.le_refl _
      · exact (List.pairwise_cons.mp ordered).1 other.now (List.mem_map_of_mem later)

theorem Turn.claimed_grows (host : Host) {world : World} {item : Item} (turn : Turn)
    (member : item ∈ world.claimed) : item ∈ (turn.apply host world).claimed := by
  obtain ⟨now, op⟩ := turn
  cases op with
  | enqueue => exact member
  | claim => exact List.mem_append_left _ member
  | finish index retry =>
      simp only [Turn.apply]
      split <;> exact member

theorem runTurns_claimed (host : Host) {world : World} {item : Item} (turns : List Turn)
    (member : item ∈ world.claimed) : item ∈ (runTurns host turns world).claimed := by
  induction turns generalizing world with
  | nil => exact member
  | cons turn rest ih => exact ih (turn.claimed_grows host member)

/-- No claim returns a record under a token that an earlier claim of it had. -/
theorem Guarded.returned_fresh {host : Host} {world : World} {turn : Turn} {claim copy : Item}
    (guarded : Guarded host turn.now world) (returned : turn.returned host world = some copy)
    (member : claim ∈ world.claimed) (same : claim.id = copy.id) : claim.token ≠ copy.token := by
  have tokens := (guarded.apply turn).tokens
  rw [(Turn.returned_copy returned).2.2, List.pairwise_append] at tokens
  exact tokens.2.2 claim member copy List.mem_cons_self same

/-- The lease of one record over a run: every step that claims or gives back is a turn's. -/
theorem Guarded.lease {host : Host} {now : Int} {world : World} {turns : List Turn}
    (guarded : Guarded host now world)
    (ordered : (turns.map (·.now)).Pairwise (· ≤ ·)) (after : ∀ turn ∈ turns, now ≤ turn.now)
    (key : String) :
    ∃ trace, Lease.Run (slotOf world.inbox key) trace (slotOf (runTurns host turns world).inbox key) ∧
      ∀ entry ∈ trace, ∃ early turn rest, turns = early ++ turn :: rest ∧ entry.now = turn.now ∧
        (entry.label = .idle ∨
          (∃ item, turn.GivesBack (runTurns host early world) item ∧ item.id = key ∧
            entry.label = .release item.token) ∨
          ∃ item, turn.returned host (runTurns host early world) = some item ∧ item.id = key ∧
            entry.label = .claim item.token) := by
  induction turns generalizing now world with
  | nil => exact ⟨[], .nil _, by simp⟩
  | cons turn rest ih =>
      rw [List.map_cons, List.pairwise_cons] at ordered
      have here : Guarded host turn.now world := guarded.later (after turn List.mem_cons_self)
      obtain ⟨next, changes, made, -, labels⟩ := here.turn turn
      obtain ⟨others, continued, sources⟩ := ih next ordered.2
        fun other member => ordered.1 other.now (List.mem_map_of_mem member)
      refine ⟨_, (made.run here.sound key).append continued, fun entry member => ?_⟩
      rcases List.mem_append.mp member with head | tail
      · refine ⟨[], turn, rest, rfl, ?_⟩
        obtain ⟨change, there, rfl⟩ := List.mem_map.mp head
        refine ⟨rfl, ?_⟩
        by_cases asked : change.1 = key
        · simp only [if_pos asked]
          rcases labels change there with idle | ⟨item, back, rfl⟩ | ⟨item, returned, rfl⟩
          · exact .inl idle
          · exact .inr (.inl ⟨item, back, asked, rfl⟩)
          · exact .inr (.inr ⟨item, returned, asked, rfl⟩)
        · exact .inl (if_neg asked)
      · obtain ⟨early, other, later, rfl, source⟩ := sources entry tail
        exact ⟨turn :: early, other, later, rfl, source⟩

/-! ## Records that are done -/

/-- A record that was done is still there, or it was removed at its age. -/
def Tombstone (now : Int) (inbox : List Item) (item : Item) : Prop :=
  match inbox.find? (·.id = item.id) with
  | none => item.createdAt + 7 * 86400 < now
  | some other =>
      other.status = .done ∧ other.createdAt = item.createdAt ∨
        item.createdAt + 7 * 86400 < other.createdAt

theorem Tombstone.later {now later : Int} {inbox : List Item} {item : Item}
    (stone : Tombstone now inbox item) (after : now ≤ later) : Tombstone later inbox item := by
  simp only [Tombstone] at stone ⊢
  split at stone
  · omega
  · exact stone

theorem Tombstone.change {host : Host} {now : Int} {inbox last : List Item} {id : String}
    {label : Lease.Label Token} {item : Item} (change : Change host now inbox id label last)
    (stone : Tombstone now inbox item) : Tombstone now last item := by
  -- A change of another record keeps what the search for this one finds.
  have other (elsewhere : id ≠ item.id)
      (same : last.find? (·.id = item.id) = inbox.find? (·.id = item.id)) :
      Tombstone now last item := by
    rw [Tombstone, same]
    exact stone
  simp only [Tombstone] at stone
  cases change with
  | @add new absent pending created named =>
      by_cases same : new.id = item.id
      · have none : inbox.find? (·.id = item.id) = none := by simpa [same] using absent
        rw [none] at stone
        rw [Tombstone, find_append item.id absent, if_pos same]
        exact .inr (by simp only at stone; omega)
      · exact other same (by rw [find_append item.id absent, if_neg same])
  | @remove old found done aged =>
      by_cases same : old.id = item.id
      · rw [← same, found] at stone
        rw [Tombstone, find_remove, if_pos same]
        rcases stone with ⟨-, created⟩ | late
        · show item.createdAt + 7 * 86400 < now
          omega
        · show item.createdAt + 7 * 86400 < now
          omega
      · exact other same (by rw [find_remove, if_neg same])
  | @close old found live =>
      by_cases same : old.id = item.id
      · rw [← same, found] at stone
        rw [Tombstone, find_replace old.close item.id found rfl, if_pos same]
        rcases stone with ⟨done, -⟩ | late
        · exact absurd done live
        · exact .inr late
      · exact other same (by rw [find_replace old.close item.id found rfl, if_neg same])
  | @claim old found young free =>
      by_cases same : old.id = item.id
      · rw [← same, found] at stone
        rw [Tombstone, find_replace (old.claim now) item.id found rfl, if_pos same]
        rcases stone with ⟨done, -⟩ | late
        · simp [done] at free
        · exact .inr late
      · exact other same (by rw [find_replace (old.claim now) item.id found rfl, if_neg same])
  | @release old retryAt found running =>
      by_cases same : old.id = item.id
      · rw [← same, found] at stone
        rw [Tombstone, find_replace (old.release retryAt) item.id found rfl, if_pos same]
        rcases stone with ⟨done, -⟩ | late
        · simp [done] at running
        · exact .inr late
      · exact other same (by rw [find_replace (old.release retryAt) item.id found rfl, if_neg same])

theorem Tombstone.changes {host : Host} {now : Int} {inbox last : List Item}
    {trace : List (String × Lease.Label Token)} {item : Item}
    (changes : Changes host now inbox trace last) (stone : Tombstone now inbox item) :
    Tombstone now last item := by
  induction changes with
  | nil => exact stone
  | cons change _ ih => exact ih (stone.change change)

theorem Tombstone.run {host : Host} {now later : Int} {world : World} {turns : List Turn}
    {item : Item} (guarded : Guarded host now world)
    (ordered : (turns.map (·.now)).Pairwise (· ≤ ·)) (after : ∀ turn ∈ turns, now ≤ turn.now)
    (start : now ≤ later) (before : ∀ turn ∈ turns, turn.now ≤ later)
    (stone : Tombstone now world.inbox item) :
    Tombstone later (runTurns host turns world).inbox item := by
  induction turns generalizing now world with
  | nil => exact stone.later start
  | cons turn rest ih =>
      rw [List.map_cons, List.pairwise_cons] at ordered
      have first := after turn List.mem_cons_self
      obtain ⟨next, trace, changes, -⟩ := (guarded.later first).turn turn
      exact ih next ordered.2
        (fun other member => ordered.1 other.now (List.mem_map_of_mem member))
        (before turn List.mem_cons_self)
        (fun other member => before other (List.mem_cons_of_mem _ member))
        ((stone.later first).changes changes)

/-! ## The claims of a run -/

section Claims

variable {host : Host} {turns before mid after : List Turn} {first second : Turn}

theorem ordered_split (ordered : ((before ++ first :: after).map (·.now)).Pairwise (· ≤ ·)) :
    ((before.map (·.now)).Pairwise (· ≤ ·) ∧ ∀ turn ∈ before, turn.now ≤ first.now) ∧
      (after.map (·.now)).Pairwise (· ≤ ·) ∧ ∀ turn ∈ after, first.now ≤ turn.now := by
  rw [List.map_append, List.map_cons, List.pairwise_append, List.pairwise_cons] at ordered
  obtain ⟨left, ⟨above, right⟩, across⟩ := ordered
  refine ⟨⟨left, fun turn member => ?_⟩, right, fun turn member => ?_⟩
  · exact across turn.now (List.mem_map_of_mem member) first.now List.mem_cons_self
  · exact above turn.now (List.mem_map_of_mem member)

theorem claims_apart {item later : Item}
    (ordered : ((before ++ first :: (mid ++ second :: after)).map (·.now)).Pairwise (· ≤ ·))
    (returned : first.returned host (runTurns host before .initial) = some item)
    (again : second.returned host (runTurns host (before ++ first :: mid) .initial) = some later)
    (same : later.id = item.id) :
    (∃ early turn rest, mid = early ++ turn :: rest ∧
      turn.GivesBack (runTurns host (before ++ first :: early) .initial) item) ∨
      first.now + 600 < second.now := by
  obtain ⟨⟨sorted, past⟩, rest, future⟩ := ordered_split ordered
  obtain ⟨⟨middle, until_⟩, -⟩ := ordered_split rest
  have start : Guarded host first.now (runTurns host before .initial) := guarded_run host sorted past
  have held := (Turn.returned_copy returned).2.1
  have claimed : item ∈ (first.apply host (runTurns host before .initial)).claimed := by
    rw [(Turn.returned_copy returned).2.2]
    exact List.mem_append_right _ List.mem_cons_self
  have between : ∀ turn ∈ mid, first.now ≤ turn.now :=
    fun turn member => future turn (List.mem_append_left _ member)
  have last : first.now ≤ second.now :=
    future second (List.mem_append_right _ List.mem_cons_self)
  obtain ⟨trace, run, sources⟩ := (start.apply first).lease middle between item.id
  rw [held] at run
  rw [runTurns_append, runTurns_cons] at again
  -- The second claim is one of the steps that its turn makes.
  have standing := (start.apply first).run middle between last until_
  obtain ⟨-, changes, made, claims, labels⟩ := standing.turn second
  obtain ⟨head, tail, split⟩ := List.append_of_mem (claims later again)
  have steps := run.append (made.run standing.sound item.id)
  have shape : entries second.now item.id changes = entries second.now item.id head ++
      ⟨second.now, .claim later.token⟩ :: entries second.now item.id tail := by
    simp [entries, split, same]
  rw [shape, ← List.append_assoc] at steps
  have times : ∀ entry ∈ trace ++ entries second.now item.id head, entry.now ≤ second.now := by
    intro entry member
    rcases List.mem_append.mp member with old | new
    · obtain ⟨early, turn, others, split, moment, -⟩ := sources entry old
      rw [moment]
      exact until_ turn (by simp [split])
    · obtain ⟨change, -, rfl⟩ := List.mem_map.mp new
      exact Int.le_refl _
  rcases steps.claims_separated times with ⟨entry, member, released⟩ | passed
  · left
    rcases List.mem_append.mp member with old | new
    · obtain ⟨early, turn, others, rfl, -, idle | ⟨copy, back, named, label⟩ | ⟨copy, -, -, label⟩⟩ :=
        sources entry old
      · simp [released] at idle
      · rw [released] at label
        have token : item.token = copy.token := Lease.Label.release.inj label
        obtain ⟨index, op, known, present⟩ := back
        have earlier : (early.map (·.now)).Pairwise (· ≤ ·) := (ordered_split middle).1.1
        have guarded := (start.apply first).run earlier
          (fun turn member => between turn (List.mem_append_left _ member))
          last (fun turn member => until_ turn (List.mem_append_left _ member))
        have equal : item = copy := guarded.unique (runTurns_claimed host early claimed)
          (List.mem_of_getElem? known) named.symm token
        subst equal
        refine ⟨early, turn, others, rfl, ?_⟩
        rw [runTurns_append, runTurns_cons]
        exact ⟨index, op, known, present⟩
      · simp [released] at label
    · obtain ⟨change, there, rfl⟩ := List.mem_map.mp new
      have member : change ∈ changes := by simp [split, there]
      rcases labels change member with idle | ⟨copy, ⟨index, op, -⟩, -⟩ | ⟨copy, -, rfl⟩
      · by_cases asked : change.1 = item.id <;> simp [asked, idle] at released
      · simp [Turn.returned, op] at again
      · by_cases asked : copy.id = item.id <;> simp [asked] at released
  · exact .inr (by omega)

/-- A record claimed anew is not held under the earlier claim's token in any later state. -/
theorem superseded_not_held {item later : Item}
    (ordered : ((before ++ first :: (mid ++ second :: after)).map (·.now)).Pairwise (· ≤ ·))
    (returned : first.returned host (runTurns host before .initial) = some item)
    (again : second.returned host (runTurns host (before ++ first :: mid) .initial) = some later)
    (same : later.id = item.id) :
    ∀ due, slotOf (runTurns host (before ++ first :: (mid ++ second :: after)) .initial).inbox
      item.id ≠ .held item.token due := by
  obtain ⟨⟨sorted, past⟩, rest, future⟩ := ordered_split ordered
  obtain ⟨⟨middle, until_⟩, tail, onward⟩ := ordered_split rest
  have start : Guarded host first.now (runTurns host before .initial) := guarded_run host sorted past
  have claimed : item ∈ (first.apply host (runTurns host before .initial)).claimed := by
    rw [(Turn.returned_copy returned).2.2]
    exact List.mem_append_right _ List.mem_cons_self
  have standing : Guarded host second.now
      (runTurns host mid (first.apply host (runTurns host before .initial))) :=
    (start.apply first).run middle (fun turn member => future turn (List.mem_append_left _ member))
      (future second (List.mem_append_right _ List.mem_cons_self)) until_
  have kept := runTurns_claimed host mid claimed
  rw [runTurns_append, runTurns_cons] at again
  have other : later.token ≠ item.token :=
    fun equal => standing.returned_fresh again kept same.symm equal.symm
  obtain ⟨trace, run, sources⟩ := (standing.apply second).lease tail onward item.id
  rw [← same, (Turn.returned_copy again).2.1, same] at run
  rw [runTurns_append, runTurns_cons, runTurns_append, runTurns_cons]
  refine run.not_held (by simp [other]) ?_
  intro entry member claims
  obtain ⟨early, turn, others, rfl, -, idle | ⟨copy, -, -, label⟩ | ⟨copy, back, named, label⟩⟩ :=
    sources entry member
  · simp [claims] at idle
  · simp [claims] at label
  · have token : item.token = copy.token := Lease.Label.claim.inj (claims.symm.trans label)
    have guarded := (standing.apply second).run (ordered_split tail).1.1
      (fun turn member => onward turn (List.mem_append_left _ member))
      (onward turn (by simp)) (ordered_split tail).1.2
    have there := runTurns_claimed host early (second.claimed_grows host kept)
    exact guarded.returned_fresh back there named.symm token

theorem finishMessage_unheld {now : Int} {item : Item} {retry : Bool} {inbox : List Item}
    (unheld : ∀ due, slotOf inbox item.id ≠ .held item.token due) :
    finishMessage now item retry inbox = inbox := by
  simp only [finishMessage]
  split
  · rfl
  · rename_i current found
    have fenced : current.status ≠ .running ∨ current.attempts ≠ item.attempts ∨
        current.claimedAt ≠ item.claimedAt := by
      by_contra free
      have running : current.status = .running := by
        by_contra other
        exact free (.inl other)
      have token : current.token = item.token := by
        have attempts : current.attempts = item.attempts := by
          by_contra other
          exact free (.inr (.inl other))
        have since : current.claimedAt = item.claimedAt := by
          by_contra other
          exact free (.inr (.inr other))
        rw [Item.token, Item.token, attempts, since]
      refine unheld (current.claimedAt.getD current.createdAt + 601) ?_
      rw [slotOf, found]
      simp only [Item.slot, running, token]
    rw [if_pos fenced]

/-- Nothing ends the rest of a done record before its age, and nothing returns it. -/
theorem done_stands {item : Item}
    (ordered : ((before ++ after).map (·.now)).Pairwise (· ≤ ·)) {now : Int}
    (bound : ∀ turn ∈ before ++ after, turn.now ≤ now)
    (member : item ∈ (runTurns host before .initial).inbox) (done : item.status = .done) :
    Tombstone now (runTurns host (before ++ after) .initial).inbox item := by
  rw [List.map_append, List.pairwise_append] at ordered
  obtain ⟨left, right, across⟩ := ordered
  -- The clock at the start of the later part is the first moment after the earlier one.
  have clock : ∃ start, (∀ turn ∈ before, turn.now ≤ start) ∧ (∀ turn ∈ after, start ≤ turn.now) ∧
      start ≤ now := by
    cases after with
    | nil => exact ⟨now, fun turn member => bound turn (by simp [member]), by simp, Int.le_refl now⟩
    | cons head rest =>
        refine ⟨head.now, fun turn member => ?_, fun turn member => ?_, bound head (by simp)⟩
        · exact across turn.now (List.mem_map_of_mem member) head.now List.mem_cons_self
        · rcases List.mem_cons.mp member with rfl | tail
          · exact Int.le_refl _
          · exact (List.pairwise_cons.mp right).1 turn.now (List.mem_map_of_mem tail)
  obtain ⟨start, earlier, onward, below⟩ := clock
  have guarded : Guarded host start (runTurns host before .initial) := guarded_run host left earlier
  have stone : Tombstone start (runTurns host before .initial).inbox item := by
    rw [Tombstone, guarded.sound.find member]
    exact .inl ⟨done, rfl⟩
  rw [runTurns_append]
  exact stone.run guarded right onward below fun turn member =>
    bound turn (List.mem_append_right _ member)

/-- The copy that a turn returns is the record it leaves in the inbox. -/
theorem Turn.returned_found {turn : Turn} {world : World} {copy : Item}
    (returned : turn.returned host world = some copy) :
    (turn.apply host world).inbox.find? (·.id = copy.id) = some copy ∧ copy.status = .running := by
  obtain ⟨now, op⟩ := turn
  cases op with
  | enqueue | finish => simp [Turn.returned] at returned
  | claim oversized order =>
      simp only [Turn.returned] at returned
      obtain ⟨-, middle, -, -, same | ⟨old, found, -, -, same⟩⟩ :=
        claimRound_changes host now oversized order world.inbox
      · rw [same] at returned
        simp at returned
      · rw [same] at returned
        obtain rfl := Option.some.inj returned
        refine ⟨?_, rfl⟩
        simp only [Turn.apply, same]
        rw [find_replace (old.claim now) (old.claim now).id found rfl]
        exact if_pos rfl

end Claims

theorem whatsapp_inbox_claims (host : Host) (turns : List Turn)
    (ordered : (turns.map (·.now)).Pairwise (· ≤ ·)) :
    (((runTurns host turns .initial).inbox.map (·.id)).Nodup ∧
      ∀ item ∈ (runTurns host turns .initial).inbox, item.status ≠ .done → Named host item) ∧
    (∀ before first mid second after item later,
      turns = before ++ first :: (mid ++ second :: after) →
      first.returned host (runTurns host before .initial) = some item →
      second.returned host (runTurns host (before ++ first :: mid) .initial) = some later →
      later.id = item.id →
      ((∃ early turn rest, mid = early ++ turn :: rest ∧
          turn.GivesBack (runTurns host (before ++ first :: early) .initial) item) ∨
        first.now + 600 < second.now) ∧
      ∀ now retry, finishMessage now item retry (runTurns host turns .initial).inbox =
        (runTurns host turns .initial).inbox) ∧
    ∀ before after item, turns = before ++ after →
      item ∈ (runTurns host before .initial).inbox → item.status = .done →
      (∀ early turn rest copy, after = early ++ turn :: rest →
        turn.returned host (runTurns host (before ++ early) .initial) = some copy →
        copy.id = item.id → item.createdAt + 7 * 86400 < copy.createdAt) ∧
      ((∀ turn ∈ turns, turn.now ≤ item.createdAt + 7 * 86400) →
        ∃ kept ∈ (runTurns host turns .initial).inbox,
          kept.id = item.id ∧ kept.status = .done ∧ kept.createdAt = item.createdAt) := by
  refine ⟨?_, ?_, ?_⟩
  · have clock : ∃ later, ∀ turn ∈ turns, turn.now ≤ later := by
      clear ordered
      induction turns with
      | nil => exact ⟨0, by simp⟩
      | cons head rest ih =>
          obtain ⟨later, bound⟩ := ih
          refine ⟨max head.now later, fun turn member => ?_⟩
          rcases List.mem_cons.mp member with rfl | member
          · omega
          · have below := bound turn member
            omega
    obtain ⟨later, bound⟩ := clock
    have sound := (guarded_run host ordered bound).sound
    exact ⟨sound.distinct, sound.named⟩
  · rintro before first mid second after item later rfl returned again same
    exact ⟨claims_apart ordered returned again same, fun now retry =>
      finishMessage_unheld (superseded_not_held ordered returned again same)⟩
  · rintro before after item rfl member done
    constructor
    · rintro early turn rest copy rfl returned same
      have shape : before ++ (early ++ turn :: rest) = (before ++ early) ++ turn :: rest := by simp
      rw [shape] at ordered
      obtain ⟨⟨sorted, earlier⟩, -⟩ := ordered_split ordered
      have upTo : ((before ++ (early ++ [turn])).map (·.now)).Pairwise (· ≤ ·) := by
        rw [← List.append_assoc, List.map_append, List.pairwise_append]
        refine ⟨sorted, by simp, ?_⟩
        intro moment there last new
        obtain ⟨other, listed, rfl⟩ := List.mem_map.mp there
        obtain rfl : last = turn.now := by simpa using new
        exact earlier other listed
      have bound : ∀ other ∈ before ++ (early ++ [turn]), other.now ≤ turn.now := by
        intro other listed
        rw [← List.append_assoc] at listed
        rcases List.mem_append.mp listed with old | new
        · exact earlier other old
        · obtain rfl := List.mem_singleton.mp new
          exact Int.le_refl _
      have stone := done_stands upTo bound member done
      rw [← List.append_assoc, runTurns_append] at stone
      have found : (runTurns host [turn] (runTurns host (before ++ early) .initial)).inbox.find?
          (·.id = item.id) = some copy := by
        rw [← same]
        exact (Turn.returned_found returned).1
      rw [Tombstone, found] at stone
      rcases stone with ⟨status, -⟩ | late
      · simp [(Turn.returned_found returned).2] at status
      · exact late
    · intro young
      have stone := done_stands ordered young member done
      have sound := (guarded_run host ordered young).sound
      rw [Tombstone] at stone
      split at stone
      · omega
      · rename_i kept found
        have there := List.mem_of_find?_eq_some found
        have named : kept.id = item.id := by simpa using List.find?_some found
        rcases stone with ⟨status, created⟩ | late
        · exact ⟨kept, there, named, status, created⟩
        · have created := sound.created kept there
          omega

/-- A host whose account receives a message of the first second of 1970. -/
def queueHost : Host :=
  { sampleHost with
    whatsapp := ⟨"1", true⟩
    formats := ⟨fun _ => some 1, fun _ => some "1970-01-01T00:00:01+00:00",
      fun number sender => number ++ sender⟩ }

def queueMessage : Json :=
  .obj [("message", .obj [("from", .str "861"), ("id", .str "wamid.1"),
    ("text", .obj [("body", .str "hello")]), ("timestamp", .str "1"), ("type", .str "text")]),
    ("phone_number_id", .str "1")]

def slowClaim : Turn := ⟨10, .claim [] ["1wamid.1"]⟩

def nextClaim : Turn := ⟨611, .claim [] ["1wamid.1"]⟩

/-- The first worker is too slow: its finish comes after the second claim. -/
theorem whatsapp_inbox_claims_slow_worker :
    ∃ item later,
      slowClaim.returned queueHost (runTurns queueHost [⟨0, .enqueue [queueMessage]⟩] .initial) =
        some item ∧
      nextClaim.returned queueHost
        (runTurns queueHost [⟨0, .enqueue [queueMessage]⟩, slowClaim] .initial) = some later ∧
      ∀ now retry,
        finishMessage now item retry
            (runTurns queueHost [⟨0, .enqueue [queueMessage]⟩, slowClaim, nextClaim] .initial).inbox =
          (runTurns queueHost [⟨0, .enqueue [queueMessage]⟩, slowClaim, nextClaim] .initial).inbox := by
  have first : (slowClaim.returned queueHost
      (runTurns queueHost [⟨0, .enqueue [queueMessage]⟩] .initial)).map (·.id) = some "1wamid.1" := by
    decide
  have second : (nextClaim.returned queueHost
      (runTurns queueHost [⟨0, .enqueue [queueMessage]⟩, slowClaim] .initial)).map (·.id) =
        some "1wamid.1" := by
    decide
  obtain ⟨item, returned, named⟩ := Option.map_eq_some_iff.mp first
  obtain ⟨later, again, renamed⟩ := Option.map_eq_some_iff.mp second
  have claims := whatsapp_inbox_claims queueHost
    [⟨0, .enqueue [queueMessage]⟩, slowClaim, nextClaim] (by decide)
  exact ⟨item, later, returned, again, (claims.2.1 [_] slowClaim [] nextClaim [] item later rfl
    returned again (renamed.trans named.symm)).2⟩

end Inbox

end HarborGate
