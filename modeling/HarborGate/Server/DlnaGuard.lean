import Mathlib.Data.Nat.Find
import HarborGate.Server.Proxy

/-!
The rounds of `is_dlna_proxy_path`: it looks for `/api/dlna` in the path and in three decodings of
it, and gives up at the first decoding that is no text.
-/

namespace HarborGate

namespace Proxy

open Url

section

variable {crates : Crates}

/-- Every decoding up to the given one is UTF-8. -/
def ReadableTo (path : Bytes) (round : Nat) : Prop :=
  ∀ earlier, 0 < earlier → earlier ≤ round → utf8 (decode^[earlier] path) = true

theorem ReadableTo.of_le {path : Bytes} {round less : Nat} (readable : ReadableTo path round)
    (le : less ≤ round) : ReadableTo path less :=
  fun earlier positive bound => readable earlier positive (by omega)

theorem readableTo_succ {path : Bytes} {round : Nat} :
    ReadableTo path (round + 1) ↔ utf8 (decode path) = true ∧ ReadableTo (decode path) round := by
  constructor
  · intro readable
    refine ⟨readable 1 (by omega) (by omega), ?_⟩
    intro earlier _ bound
    exact readable (earlier + 1) (by omega) (by omega)
  · rintro ⟨first, readable⟩ earlier positive bound
    cases earlier with
    | zero => omega
    | succ earlier =>
        by_cases last : earlier = 0
        · subst last
          exact first
        · exact readable earlier (by omega) (by omega)

theorem iterate_decode_of_fixed {path : Bytes} (fixed : decode path = path) (round : Nat) :
    decode^[round] path = path := by
  induction round with
  | zero => rfl
  | succ round ih => rw [Function.iterate_succ_apply, fixed, ih]

/-- The loop finds DLNA in the decodings it can read. -/
theorem dlnaRounds_iff (documented : crates.Documented) (rounds : Nat) : ∀ path,
    dlnaRounds crates rounds path = true ↔
      ∃ round < rounds, isDlna (decode^[round] path) = true ∧ ReadableTo path round := by
  induction rounds with
  | zero => simp [dlnaRounds]
  | succ rounds ih =>
      intro path
      by_cases found : isDlna path = true
      · have readable : ReadableTo path 0 := fun _ positive bound => by omega
        simp only [dlnaRounds, found, if_true, true_iff]
        exact ⟨0, by omega, found, readable⟩
      · have later : (∃ round < rounds + 1, isDlna (decode^[round] path) = true ∧
              ReadableTo path round) ↔
            utf8 (decode path) = true ∧ ∃ round < rounds,
              isDlna (decode^[round] (decode path)) = true ∧ ReadableTo (decode path) round := by
          constructor
          · rintro ⟨round, bound, dlna, readable⟩
            cases round with
            | zero => exact absurd dlna found
            | succ round =>
                rw [readableTo_succ] at readable
                exact ⟨readable.1, round, by omega, dlna, readable.2⟩
          · rintro ⟨first, round, bound, dlna, readable⟩
            exact ⟨round + 1, by omega, dlna, readableTo_succ.mpr ⟨first, readable⟩⟩
        rw [later, ← ih]
        simp only [dlnaRounds, found, Bool.false_eq_true, if_false, documented.decodes]
        by_cases readable : utf8 (decode path) = true
        · simp only [readable, if_true, true_and]
          by_cases fixed : decode path = path
          · -- At a fixed point the further rounds would see the same path.
            rw [if_pos fixed, ih]
            have none : ¬∃ round < rounds, isDlna (decode^[round] (decode path)) = true ∧
                ReadableTo (decode path) round := by
              rintro ⟨round, -, dlna, -⟩
              rw [fixed, iterate_decode_of_fixed fixed] at dlna
              exact found dlna
            simp [none]
          · rw [if_neg fixed]
        · simp [readable]

/-- A path that is DLNA in itself or in one of its first three decodings is found. -/
def FailsClosed (crates : Crates) (target normalized : Bytes) : Prop :=
  ∀ round ≤ 3, isDlna (decode^[round] normalized) = true → isDlnaProxyPath crates target = true

/-- The guard fails closed exactly when the decodings up to the first DLNA one are UTF-8. -/
theorem dlna_guard_fails_closed_iff (documented : crates.Documented) {target normalized : Bytes}
    (parsed : crates.urlPath target = some normalized) :
    FailsClosed crates target normalized ↔
      ∀ round ≤ 3, isDlna (decode^[round] normalized) = true →
        (∀ earlier < round, isDlna (decode^[earlier] normalized) = false) →
          ReadableTo normalized round := by
  have guard : isDlnaProxyPath crates target = true ↔ ∃ round < 4,
      isDlna (decode^[round] normalized) = true ∧ ReadableTo normalized round := by
    simp only [isDlnaProxyPath, parsed, dlnaRounds_iff documented]
  constructor
  · intro closed round bound dlna isFirst
    obtain ⟨seen, -, dlna', readable⟩ := guard.mp (closed round bound dlna)
    have notEarlier : ¬seen < round := by
      intro earlier
      rw [isFirst seen earlier] at dlna'
      exact Bool.false_ne_true dlna'
    exact readable.of_le (by omega)
  · intro readable round bound dlna
    have reached : ∃ round, isDlna (decode^[round] normalized) = true := ⟨round, dlna⟩
    have least := Nat.find_min' reached dlna
    have isFirst : ∀ earlier < Nat.find reached, isDlna (decode^[earlier] normalized) = false := by
      intro earlier before
      simpa using Nat.find_min reached before
    refine guard.mpr ⟨Nat.find reached, by omega, Nat.find_spec reached, ?_⟩
    exact readable (Nat.find reached) (by omega) (Nat.find_spec reached) isFirst

end

def encodedDlna : Bytes :=
  ascii "/api/%64lna/start"

theorem encoded_dlna_fails_closed :
    FailsClosed standardCrates encodedDlna encodedDlna := by
  have parsed : standardCrates.urlPath encodedDlna = some encodedDlna := by decide
  refine (dlna_guard_fails_closed_iff standardCrates_documented parsed).mpr ?_
  intro round _ _ isFirst earlier positive bound
  have second : ¬1 < round := by
    intro after
    have unseen := isFirst 1 after
    exact absurd unseen (by decide)
  have same : earlier = 1 := by omega
  subst same
  decide

/-- A DLNA path whose rest is no UTF-8 once it is decoded. -/
def unreadableRequest : Request :=
  bareRequest .get "%2564lna/%25FF" (by decide +kernel)

theorem unreadable_dlna_passes :
    unreadableRequest.target standardCrates = .ok (ascii "/api/%64lna/%FF") ∧
      standardCrates.urlPath (ascii "/api/%64lna/%FF") = some (ascii "/api/%64lna/%FF") ∧
      ¬FailsClosed standardCrates (ascii "/api/%64lna/%FF") (ascii "/api/%64lna/%FF") := by
  refine ⟨by decide, by decide, ?_⟩
  intro closed
  have found := closed 1 (by omega) (by decide)
  exact absurd found (by decide)

end Proxy

end HarborGate
