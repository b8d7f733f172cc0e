import Mathlib.Data.Int.Order.Basic
import Mathlib.Data.List.AList
import OracleSchema.Strings
import OracleSchema.SeenSets

/-!
Arm 2: the in-process set of seen token ids. The cache is a dictionary from token
id to expiry that is scanned at every call; it refines the expiring seen-set of
`SeenSets`.
-/
namespace OracleSchema.Replay
open OracleSchema.Strings OracleSchema.SeenSets

structure ReplayCache where
  seen : AList (fun _ : PyStr => Int)

def ReplayCache.fresh : ReplayCache := ⟨∅⟩

def ReplayCache.lookup (cache : ReplayCache) : Seen PyStr Int := fun jti => cache.seen.lookup jti

/-- `check_and_insert`: true on the first sighting, which is recorded. -/
def ReplayCache.checkAndInsert (cache : ReplayCache) (jti : PyStr) (exp now : Int) : Bool × ReplayCache :=
  let expired := (cache.seen.entries.filter (fun entry => now ≥ entry.2)).map Sigma.fst
  let seen := expired.foldl (fun seen key => seen.erase key) cache.seen
  if jti ∈ seen then (false, ⟨seen⟩) else (true, ⟨seen.insert jti exp⟩)

/-- The arguments of one call of `check_and_insert`. -/
abbrev CacheCall := Sighting PyStr Int

def ReplayCache.check (cache : ReplayCache) (call : CacheCall) : Bool × ReplayCache :=
  cache.checkAndInsert call.key call.deadline call.now

/-- A fresh cache after some calls. -/
def cacheAfter (calls : List CacheCall) : ReplayCache :=
  calls.foldl (fun cache call => (cache.check call).2) .fresh

theorem lookup_erased (keys : List PyStr) (seen : AList (fun _ : PyStr => Int)) (jti : PyStr) :
    (keys.foldl (fun seen key => seen.erase key) seen).lookup jti = if jti ∈ keys then none else seen.lookup jti := by
  induction keys generalizing seen with
  | nil => simp
  | cons key keys ih =>
    rw [List.foldl_cons, ih]
    by_cases same : jti = key
    · subst same
      simp
    · simp [same, AList.lookup_erase_ne same]

theorem mem_expired {seen : AList (fun _ : PyStr => Int)} {now : Int} {jti : PyStr} :
    jti ∈ (seen.entries.filter (fun entry => now ≥ entry.2)).map Sigma.fst ↔
      ∃ exp, seen.lookup jti = some exp ∧ exp ≤ now := by
  simp only [List.mem_map, List.mem_filter, decide_eq_true_eq]
  constructor
  · rintro ⟨⟨key, exp⟩, ⟨member, dead⟩, rfl⟩
    exact ⟨exp, AList.mem_lookup_iff.mpr member, dead⟩
  · rintro ⟨exp, found, dead⟩
    exact ⟨⟨jti, exp⟩, ⟨AList.mem_lookup_iff.mp found, dead⟩, rfl⟩

/-- The scan leaves what is live. -/
theorem lookup_kept (cache : ReplayCache) (now : Int) (jti : PyStr) :
    (((cache.seen.entries.filter (fun entry => now ≥ entry.2)).map Sigma.fst).foldl (fun seen key => seen.erase key)
      cache.seen).lookup jti = live cache.lookup now jti := by
  rw [lookup_erased]
  cases found : cache.lookup jti with
  | none => rw [live_of_none found, show cache.seen.lookup jti = none from found, ite_self]
  | some exp =>
    rw [live_of_some found, show cache.seen.lookup jti = some exp from found]
    by_cases dead : exp ≤ now
    · rw [if_pos (mem_expired.mpr ⟨exp, found, dead⟩), if_neg (not_lt.mpr dead)]
    · have kept : jti ∉ (cache.seen.entries.filter (fun entry => now ≥ entry.2)).map Sigma.fst := by
        rw [mem_expired]
        rintro ⟨exp', found', dead'⟩
        obtain rfl : exp = exp' := Option.some.inj ((show cache.seen.lookup jti = some exp from found).symm.trans found')
        exact dead dead'
      rw [if_neg kept, if_pos (not_le.mp dead)]

/-- The dictionary answers as the seen-set does. -/
theorem check_fst (cache : ReplayCache) (call : CacheCall) : (cache.check call).1 = admits cache.lookup call := by
  have kept := lookup_kept cache call.now call.key
  simp only [ReplayCache.check, ReplayCache.checkAndInsert, admits, ← AList.lookup_isSome, kept]
  cases live cache.lookup call.now call.key with
  | none => rfl
  | some exp => rfl

/-- The dictionary remembers what the seen-set does. -/
theorem check_lookup (cache : ReplayCache) (call : CacheCall) :
    (cache.check call).2.lookup = record cache.lookup call := by
  funext jti
  have kept := lookup_kept cache call.now
  have answer := check_fst cache call
  unfold record
  rw [← answer]
  simp only [ReplayCache.check, ReplayCache.checkAndInsert]
  split_ifs with replayed recorded recorded
  · exact absurd recorded.1 (by simp)
  · exact kept jti
  · obtain ⟨_, rfl⟩ := recorded
    exact AList.lookup_insert _
  · have other : jti ≠ call.key := fun same => recorded ⟨rfl, same⟩
    exact (AList.lookup_insert_ne other).trans (kept jti)

/-- The cache refines the seen-set over any run of calls. -/
theorem cacheAfter_lookup (calls : List CacheCall) : (cacheAfter calls).lookup = after calls := by
  induction calls using List.reverseRecOn with
  | nil => rfl
  | append_singleton calls call ih =>
    rw [after_concat, ← ih, ← check_lookup]
    simp [cacheAfter]

end OracleSchema.Replay
