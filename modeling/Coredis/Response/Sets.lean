import Mathlib.Data.List.Nodup
import Coredis.Response.Callbacks

/- `SetCallback` across the two protocol versions. A RESP3 set reply arrives as a native set
   and is returned as it is; under RESP2 the same reply is an array, which becomes the set of
   its members whatever their order and repetitions. -/
namespace Coredis

def SameMembers (xs ys : List PyVal) : Prop := ∀ k, k ∈ keysOf xs ↔ k ∈ keysOf ys

instance (xs ys : List PyVal) : Decidable (SameMembers xs ys) :=
  decidable_of_iff (keysOf xs ⊆ keysOf ys ∧ keysOf ys ⊆ keysOf xs)
    ⟨fun h k => ⟨@h.1 k, @h.2 k⟩, fun h => ⟨fun k => (h k).1, fun k => (h k).2⟩⟩

/-- What adding the objects `xs` to a set holding `acc` leaves in `s`: the keys of both,
    each once, carried by objects of either. -/
structure Adds (acc xs s : List PyVal) : Prop where
  keys : ∀ k, k ∈ keysOf s ↔ k ∈ keysOf acc ∨ k ∈ keysOf xs
  nodup : (keysOf acc).Nodup → (keysOf s).Nodup
  objects : ∀ y ∈ s, y ∈ acc ∨ y ∈ xs

theorem Adds.nil (acc : List PyVal) : Adds acc [] acc :=
  ⟨by simp, id, fun _ h => .inl h⟩

theorem setAdd_adds {acc : List PyVal} {x : PyVal} {k : Key} (hk : x.key? = some k) :
    ∃ s, setAdd acc x = .ok s ∧ Adds acc [x] s := by
  have hx : keysOf [x] = [k] := by simp [keysOf, hk]
  by_cases hin : k ∈ keysOf acc
  · refine ⟨acc, by simp [setAdd, hk, hin], ⟨?_, id, fun _ h => .inl h⟩⟩
    intro j
    simp only [hx, List.mem_singleton]
    constructor
    · exact .inl
    · rintro (h | rfl) <;> assumption
  · refine ⟨acc ++ [x], by simp [setAdd, hk, hin], ⟨?_, ?_, ?_⟩⟩
    · simp [hx]
    · intro h
      simpa [hx, List.nodup_append, hin] using h
    · simp

theorem Adds.cons {acc s t xs : List PyVal} {x : PyVal} (h₁ : Adds acc [x] s)
    (h₂ : Adds s xs t) : Adds acc (x :: xs) t := by
  have hx : keysOf (x :: xs) = keysOf [x] ++ keysOf xs := keysOf_append [x] xs
  refine ⟨fun k => ?_, h₂.nodup ∘ h₁.nodup, fun y hy => ?_⟩
  · rw [h₂.keys, h₁.keys, hx, List.mem_append]
    tauto
  · rcases h₂.objects y hy with h | h
    · rcases h₁.objects y h with h | h
      · exact .inl h
      · exact .inr (List.mem_cons.mpr (.inl (List.mem_singleton.mp h)))
    · exact .inr (List.mem_cons_of_mem x h)

theorem foldlM_setAdd (xs : List PyVal) (hxs : ∀ x ∈ xs, (x.key?).isSome)
    (acc : List PyVal) : ∃ s, xs.foldlM setAdd acc = .ok s ∧ Adds acc xs s := by
  induction xs generalizing acc with
  | nil => exact ⟨acc, rfl, Adds.nil acc⟩
  | cons x xs ih =>
    obtain ⟨k, hk⟩ := Option.isSome_iff_exists.mp (hxs x (List.mem_cons_self x xs))
    obtain ⟨s, hs, hadd⟩ := @setAdd_adds acc x k hk
    obtain ⟨t, ht, hadd'⟩ := ih (fun y hy => hxs y (List.mem_cons_of_mem x hy)) s
    exact ⟨t, by simp [hs, ht], hadd.cons hadd'⟩

theorem pySet_list (l : List PyVal) (hl : ∀ x ∈ l, (x.key?).isSome) :
    ∃ s, pySet (.list l) = .ok (.set s) ∧ Adds [] l s := by
  obtain ⟨s, hs, hadd⟩ := foldlM_setAdd l hl []
  exact ⟨s, by simp [pySet, PyVal.iter, hs], hadd⟩

/-- Under RESP2 a set reply is an array `l`, under RESP3 a native set `S` with the same
    members. `SetCallback()` makes of `l` a set with the members of `S`, each once and carried
    by an object of `l`, and returns `S` as it is; nil and the empty array give the empty set
    under every version. -/
theorem setCallback_agrees_across_versions (l S : List PyVal)
    (hl : ∀ x ∈ l, (x.key?).isSome) (hS : SameMembers S l) :
    (∃ s, setCallback.call (.list l) 2 = .ok (.set s) ∧ SameMembers s S ∧
      (keysOf s).Nodup ∧ ∀ y ∈ s, y ∈ l) ∧
    setCallback.call (.set S) 3 = .ok (.set S) ∧
    ∀ version, setCallback.call .none version = .ok (.set []) ∧
      setCallback.call (.list []) version = .ok (.set []) := by
  refine ⟨?_, rfl, fun _ => by simp [PyVal.isSet]⟩
  cases l with
  | nil => exact ⟨[], rfl, fun k => (hS k).symm, List.nodup_nil, fun _ h => h⟩
  | cons x xs =>
    obtain ⟨s, hs, hadd⟩ := pySet_list (x :: xs) hl
    refine ⟨s, by simp [setCallback, PyVal.isSet, hs], fun k => ?_, hadd.nodup List.nodup_nil,
      fun y hy => (hadd.objects y hy).resolve_left (List.not_mem_nil y)⟩
    rw [hadd.keys, hS]
    simp

theorem setCallback_agrees_on_repeated_member :
    (∀ x ∈ [PyVal.int 1, .bool true, .str "a"], (x.key?).isSome) ∧
    SameMembers [.str "a", .float (.finite 1)] [.int 1, .bool true, .str "a"] ∧
    ((∃ s, setCallback.call (.list [.int 1, .bool true, .str "a"]) 2 = .ok (.set s) ∧
      SameMembers s [.str "a", .float (.finite 1)] ∧ (keysOf s).Nodup ∧
      ∀ y ∈ s, y ∈ [PyVal.int 1, .bool true, .str "a"]) ∧
    setCallback.call (.set [.str "a", .float (.finite 1)]) 3 =
      .ok (.set [.str "a", .float (.finite 1)]) ∧
    ∀ version, setCallback.call .none version = .ok (.set []) ∧
      setCallback.call (.list []) version = .ok (.set [])) :=
  have hl : ∀ x ∈ [PyVal.int 1, .bool true, .str "a"], (x.key?).isSome := by decide
  have hS : SameMembers [.str "a", .float (.finite 1)] [.int 1, .bool true, .str "a"] := by
    decide
  ⟨hl, hS, setCallback_agrees_across_versions _ _ hl hS⟩

theorem foldlM_setAdd_ok {xs acc s : List PyVal} (h : xs.foldlM setAdd acc = .ok s) :
    Adds acc xs s := by
  induction xs generalizing acc with
  | nil => cases h; exact Adds.nil _
  | cons x xs ih =>
    rw [List.foldlM_cons, except_bind_eq_ok] at h
    obtain ⟨acc', hstep, hrest⟩ := h
    cases hk : x.key? with
    | none => simp [setAdd, hk] at hstep
    | some k =>
      obtain ⟨s', hs', hadd⟩ := @setAdd_adds acc x k hk
      rw [hs', Except.ok.injEq] at hstep
      subst hstep
      exact hadd.cons (ih hrest)

theorem foldlM_setAdd_distinct (xs acc : List PyVal) (hk : ∀ x ∈ xs, (x.key?).isSome)
    (hnd : (keysOf (acc ++ xs)).Nodup) : xs.foldlM setAdd acc = .ok (acc ++ xs) := by
  induction xs generalizing acc with
  | nil => simp
  | cons x xs ih =>
    obtain ⟨k, hx⟩ := Option.isSome_iff_exists.mp (hk x (List.mem_cons_self x xs))
    have hnew : k ∉ keysOf acc := by
      rw [keysOf_append, keysOf_cons_of_key _ hx, List.nodup_append] at hnd
      exact fun h => hnd.2.2 h (List.mem_cons_self k _)
    have hstep : setAdd acc x = .ok (acc ++ [x]) := by simp [setAdd, hx, hnew]
    rw [List.foldlM_cons, hstep, except_ok_bind,
      ih (acc ++ [x]) (fun y hy => hk y (List.mem_cons_of_mem x hy)) (by simpa using hnd)]
    simp

theorem pySet_ok {r : PyVal} {s : List PyVal} (h : pySet r = .ok (.set s)) :
    ∃ xs, r.iter = .ok xs ∧ xs.foldlM setAdd [] = .ok s := by
  simp only [pySet, except_bind_eq_ok, except_pure, Except.ok.injEq, PyVal.set.injEq] at h
  obtain ⟨xs, hxs, s', hs', rfl⟩ := h
  exact ⟨xs, hxs, hs'⟩

theorem setCallback_never_repeats (response : PyVal) (version : Int)
    (hset : ∀ S, response = .set S → (∀ x ∈ S, (x.key?).isSome) ∧ (keysOf S).Nodup) :
    (∀ s, setCallback.call response version = .ok (.set s) → (keysOf s).Nodup) ∧
    (response.isSet → setCallback.call response version = pySet response) := by
  refine ⟨fun s h => ?_, fun hs => ?_⟩
  · rw [setCallback_call] at h
    split_ifs at h with hs
    · cases response <;> simp only [PyVal.isSet, Bool.false_eq_true] at hs
      cases h
      exact (hset _ rfl).2
    · obtain ⟨xs, -, hfold⟩ := pySet_ok h
      exact (foldlM_setAdd_ok hfold).nodup List.nodup_nil
    · cases h
      exact List.nodup_nil
  · cases response <;> simp only [PyVal.isSet, Bool.false_eq_true] at hs
    obtain ⟨hk, hnd⟩ := hset _ rfl
    simp [PyVal.isSet, pySet, PyVal.iter, foldlM_setAdd_distinct _ [] hk (by simpa using hnd)]

theorem setCallback_never_repeats_on_array :
    (∀ S, PyVal.list [.int 1, .bool true] = .set S →
      (∀ x ∈ S, (x.key?).isSome) ∧ (keysOf S).Nodup) ∧
    (∀ s, setCallback.call (.list [.int 1, .bool true]) 2 = .ok (.set s) → (keysOf s).Nodup) ∧
    ((PyVal.list [.int 1, .bool true]).isSet →
      setCallback.call (.list [.int 1, .bool true]) 2 = pySet (.list [.int 1, .bool true])) :=
  have hset : ∀ S, PyVal.list [.int 1, .bool true] = .set S →
      (∀ x ∈ S, (x.key?).isSome) ∧ (keysOf S).Nodup := fun _ h => by cases h
  ⟨hset, setCallback_never_repeats _ 2 hset⟩

end Coredis
