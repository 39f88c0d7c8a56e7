import Mathlib.Data.List.Nodup
import Coredis.Response.Callbacks

/- `DictCallback` across the two protocol versions. A RESP3 map reply arrives as a native
   dict and is returned as it is. Under RESP2 an array of key/value pairs becomes the dict of
   the pairs; the flat array of alternating keys and values, which is how RESP2 sends a map,
   is not paired by the generic `DictCallback()`. -/
namespace Coredis

def DistinctKeys (ps : List (PyVal × PyVal)) : Prop :=
  (∀ p ∈ ps, (p.1.key?).isSome) ∧ (keysOf (ps.map Prod.fst)).Nodup

instance (ps : List (PyVal × PyVal)) : Decidable (DistinctKeys ps) :=
  inferInstanceAs (Decidable (_ ∧ _))

/-- The RESP2 array of two-element arrays, one per key/value pair. -/
def pairArray (ps : List (PyVal × PyVal)) : PyVal := .list (ps.map fun p => .list [p.1, p.2])

theorem setItem_fresh {ps : List (PyVal × PyVal)} {k v : PyVal} {key : Key}
    (hk : k.key? = some key) (hnew : key ∉ keysOf (ps.map Prod.fst)) :
    setItem ps k v = .ok (ps ++ [(k, v)]) := by
  simp [setItem, hk, hnew]

theorem foldlM_dictUpdate_pairs (ps acc : List (PyVal × PyVal)) (hd : DistinctKeys (acc ++ ps)) :
    (ps.map fun p => PyVal.list [p.1, p.2]).foldlM dictUpdate acc = .ok (acc ++ ps) := by
  induction ps generalizing acc with
  | nil => simp
  | cons p ps ih =>
    obtain ⟨key, hk⟩ := Option.isSome_iff_exists.mp (hd.1 p (by simp))
    have hnodup := hd.2
    simp only [List.map_append, List.map_cons, keysOf_append, keysOf_cons_of_key _ hk,
      List.nodup_append] at hnodup
    have hnew : key ∉ keysOf (acc.map Prod.fst) := fun h =>
      hnodup.2.2 h (List.mem_cons_self key _)
    have step : dictUpdate acc (.list [p.1, p.2]) = .ok (acc ++ [p]) := by
      simp [dictUpdate, PyVal.iter, setItem_fresh hk hnew]
    simp [step, ih (acc ++ [p]) (by simpa using hd)]

/-- Under RESP2 a map reply that arrives as an array of key/value pairs is made by
    `DictCallback()` into the same dict as the native RESP3 map: the pairs, in order. -/
theorem dictCallback_pair_array_agrees (ps : List (PyVal × PyVal)) (hd : DistinctKeys ps) :
    (dictCallback).call (pairArray ps) 2 = (dictCallback).call (.dict ps) 3 ∧
    (dictCallback).call (.dict ps) 3 = .ok (.dict ps) := by
  have hfold := foldlM_dictUpdate_pairs ps [] (by simpa using hd)
  simp_all [pairArray, PyVal.isDict, pyDict, PyVal.iter]

theorem dictCallback_pair_array_agrees_on_two_keys :
    DistinctKeys [(.bytes [97], .int 1), (.str "a", .list [])] ∧
    ((dictCallback).call (pairArray [(.bytes [97], .int 1), (.str "a", .list [])]) 2 =
      (dictCallback).call (.dict [(.bytes [97], .int 1), (.str "a", .list [])]) 3 ∧
    (dictCallback).call (.dict [(.bytes [97], .int 1), (.str "a", .list [])]) 3 =
      .ok (.dict [(.bytes [97], .int 1), (.str "a", .list [])])) :=
  have hd : DistinctKeys [(.bytes [97], .int 1), (.str "a", .list [])] := by decide
  ⟨hd, dictCallback_pair_array_agrees _ hd⟩

def dictLookup (d : List (PyVal × PyVal)) (j : Key) : Option PyVal :=
  (d.find? fun p => p.1.key? = some j).map Prod.snd

def insertKey (m : Key → Option PyVal) (key : Key) (v : PyVal) : Key → Option PyVal :=
  fun j => if j = key then some v else m j

def pairStep (m : Key → Option PyVal) (p : PyVal × PyVal) : Key → Option PyVal :=
  match p.1.key? with
  | some key => insertKey m key p.2
  | none => m

/-- The mapping of key/value pairs in which a later pair overrides an earlier one. -/
def pairsMap (ps : List (PyVal × PyVal)) : Key → Option PyVal :=
  ps.foldl pairStep fun _ => none

theorem dictLookup_append_absent {d : List (PyVal × PyVal)} {k v : PyVal} {key : Key}
    (hk : k.key? = some key) (hnew : key ∉ keysOf (d.map Prod.fst)) :
    dictLookup (d ++ [(k, v)]) = insertKey (dictLookup d) key v := by
  funext j
  simp only [dictLookup, insertKey, List.find?_append]
  by_cases hj : j = key
  · subst hj
    have : d.find? (fun p => decide (p.1.key? = some j)) = none := by
      rw [List.find?_eq_none]
      intro p hp hpk
      exact hnew (mem_keysOf.mpr ⟨p.1, List.mem_map_of_mem _ hp, of_decide_eq_true hpk⟩)
    simp [this, hk]
  · cases h : d.find? (fun p => decide (p.1.key? = some j)) <;> simp [hk, hj, Ne.symm hj]

theorem dictLookup_update {d : List (PyVal × PyVal)} {v : PyVal} {key : Key}
    (hin : key ∈ keysOf (d.map Prod.fst)) :
    dictLookup (d.map fun p => if p.1.key? = some key then (p.1, v) else p) =
      insertKey (dictLookup d) key v := by
  funext j
  have hpred : ((fun p : PyVal × PyVal => decide (p.1.key? = some j)) ∘
      fun p => if p.1.key? = some key then (p.1, v) else p) =
      fun p => decide (p.1.key? = some j) := by
    funext p
    by_cases h : p.1.key? = some key <;> simp [h]
  simp only [dictLookup, insertKey, List.find?_map, hpred]
  cases hf : d.find? (fun p => decide (p.1.key? = some j)) with
  | some e =>
    have he : e.1.key? = some j := by simpa using List.find?_some hf
    by_cases hj : j = key
    · subst hj; simp [he]
    · simp [hj, he, Ne.symm hj]
  | none =>
    rw [List.find?_eq_none] at hf
    by_cases hj : j = key
    · subst hj
      obtain ⟨x, hx, hxk⟩ := mem_keysOf.mp hin
      obtain ⟨p, hp, rfl⟩ := List.mem_map.mp hx
      exact absurd (decide_eq_true hxk) (hf p hp)
    · simp [hj]

theorem setItem_lookup {ps ps' : List (PyVal × PyVal)} {k v : PyVal} {key : Key}
    (hk : k.key? = some key) (h : setItem ps k v = .ok ps') :
    dictLookup ps' = insertKey (dictLookup ps) key v ∧
      ((keysOf (ps.map Prod.fst)).Nodup → (keysOf (ps'.map Prod.fst)).Nodup) := by
  simp only [setItem, hk, Except.ok.injEq] at h
  subst h
  split
  · rename_i hin
    refine ⟨dictLookup_update hin, fun hnd => ?_⟩
    have : (ps.map fun p => if p.1.key? = some key then (p.1, v) else p).map Prod.fst =
        ps.map Prod.fst := by
      simp [List.map_map, Function.comp_def, apply_ite Prod.fst]
    rwa [this]
  · rename_i hnew
    refine ⟨dictLookup_append_absent hk hnew, fun hnd => ?_⟩
    simpa [keysOf_cons_of_key _ hk, List.nodup_append, hnew] using hnd

theorem foldlM_dictUpdate_lookup (ps acc : List (PyVal × PyVal))
    (hk : ∀ p ∈ ps, (p.1.key?).isSome) (hnd : (keysOf (acc.map Prod.fst)).Nodup) :
    ∃ d, (ps.map fun p => PyVal.list [p.1, p.2]).foldlM dictUpdate acc = .ok d ∧
      (keysOf (d.map Prod.fst)).Nodup ∧ dictLookup d = ps.foldl pairStep (dictLookup acc) := by
  induction ps generalizing acc with
  | nil => exact ⟨acc, rfl, hnd, rfl⟩
  | cons p ps ih =>
    obtain ⟨key, hkey⟩ := Option.isSome_iff_exists.mp (hk p (List.mem_cons_self p ps))
    obtain ⟨acc', hset⟩ : ∃ acc', setItem acc p.1 p.2 = .ok acc' :=
      ⟨_, by simp only [setItem, hkey]; rfl⟩
    obtain ⟨hlook, hnd'⟩ := setItem_lookup hkey hset
    obtain ⟨d, hd, hdnd, hdlook⟩ := ih _ (fun q hq => hk q (List.mem_cons_of_mem p hq)) (hnd' hnd)
    refine ⟨d, ?_, hdnd, ?_⟩
    · simp [dictUpdate, PyVal.iter, hset, hd]
    · rw [hdlook, hlook]
      simp [pairStep, hkey]

theorem dictCallback_pair_array_mapping (ps : List (PyVal × PyVal))
    (hk : ∀ p ∈ ps, (p.1.key?).isSome) :
    ∃ d, (dictCallback).call (pairArray ps) 2 = .ok (.dict d) ∧
      (keysOf (d.map Prod.fst)).Nodup ∧ dictLookup d = pairsMap ps := by
  obtain ⟨d, hd, hnd, hlook⟩ := foldlM_dictUpdate_lookup ps [] hk List.nodup_nil
  exact ⟨d, by simp [pairArray, PyVal.isDict, pyDict, PyVal.iter, hd], hnd, hlook⟩

theorem dictCallback_pair_array_mapping_on_equal_keys :
    (∀ p ∈ [(PyVal.int 1, PyVal.str "a"), (.bool true, .str "b")], (p.1.key?).isSome) ∧
    ∃ d, (dictCallback).call (pairArray [(.int 1, .str "a"), (.bool true, .str "b")]) 2 =
        .ok (.dict d) ∧
      (keysOf (d.map Prod.fst)).Nodup ∧
      dictLookup d = pairsMap [(.int 1, .str "a"), (.bool true, .str "b")] :=
  have hk : ∀ p ∈ [(PyVal.int 1, PyVal.str "a"), (.bool true, .str "b")], (p.1.key?).isSome := by
    decide
  ⟨hk, dictCallback_pair_array_mapping _ hk⟩

/-- The flat RESP2 array `[k1, v1, ..., kn, vn]` of a map reply. -/
def flatArray (ps : List (PyVal × PyVal)) : PyVal := .list (ps.flatMap fun p => [p.1, p.2])

theorem dictCallback_flat_array_raises :
    (dictCallback).call (flatArray [(.int 1, .int 2)]) 2 = .error .typeError ∧
    (dictCallback).call (.dict [(.int 1, .int 2)]) 3 = .ok (.dict [(.int 1, .int 2)]) :=
  ⟨rfl, rfl⟩

theorem dictUpdate_ok {ps ps' : List (PyVal × PyVal)} {e : PyVal}
    (h : dictUpdate ps e = .ok ps') : ∃ k v, e.iter = .ok [k, v] ∧ setItem ps k v = .ok ps' := by
  unfold dictUpdate at h
  split at h
  · exact ⟨_, _, ‹_›, h⟩
  · cases h
  · cases h

theorem setItem_keys {ps ps' : List (PyVal × PyVal)} {k v : PyVal}
    (h : setItem ps k v = .ok ps') : ∃ key, k.key? = some key ∧
      ∀ j, j ∈ keysOf (ps'.map Prod.fst) ↔ j ∈ keysOf (ps.map Prod.fst) ∨ j = key := by
  unfold setItem at h
  split at h
  · rename_i key hk
    refine ⟨key, hk, fun j => ?_⟩
    simp only [Except.ok.injEq] at h
    subst h
    split
    · have : (ps.map fun p => if p.1.key? = some key then (p.1, v) else p).map Prod.fst =
          ps.map Prod.fst := by
        simp [List.map_map, Function.comp_def, apply_ite Prod.fst]
      rw [this]
      constructor
      · exact .inl
      · rintro (h | rfl) <;> assumption
    · simp [keysOf_cons_of_key _ hk]
  · cases h

theorem foldlM_dictUpdate_ok {es acc d : List _} (h : es.foldlM dictUpdate acc = .ok d) :
    (∀ e ∈ es, ∃ k v, e.iter = .ok [k, v]) ∧
      keysOf (acc.map Prod.fst) ⊆ keysOf (d.map Prod.fst) := by
  induction es generalizing acc with
  | nil =>
    simp only [List.foldlM_nil, except_pure, Except.ok.injEq] at h
    subst h
    exact ⟨by simp, fun _ h => h⟩
  | cons e es ih =>
    simp only [List.foldlM_cons, except_bind_eq_ok] at h
    obtain ⟨acc', hstep, hrest⟩ := h
    obtain ⟨k, v, hiter, hset⟩ := dictUpdate_ok hstep
    obtain ⟨key, -, hkeys⟩ := setItem_keys hset
    obtain ⟨hall, hsub⟩ := ih hrest
    refine ⟨?_, fun j hj => hsub ((hkeys j).mpr (.inl hj))⟩
    rintro x (_ | ⟨_, hx⟩)
    · exact ⟨k, v, hiter⟩
    · exact hall x hx

def Key.Short : Key → Prop
  | .num _ => True
  | .str s => s.length = 1
  | _ => False

def Key.PairLike : Key → Prop
  | .bytes b => b.length = 2
  | .str s => s.length = 2
  | _ => False

theorem Key.not_short_of_pairLike {k : Key} (hs : k.Short) (hp : k.PairLike) : False := by
  cases k <;> simp_all [Key.Short, Key.PairLike]

theorem scalar_pair_keys {x a b : PyVal} (hx : x.IsScalar) (h : x.iter = .ok [a, b]) :
    ∃ kx ka, x.key? = some kx ∧ a.key? = some ka ∧ kx.PairLike ∧ ka.Short := by
  cases x with
  | bytes bs =>
    match bs, h with
    | [c0, c1], h =>
      simp [PyVal.iter] at h
      obtain ⟨rfl, rfl⟩ := h
      exact ⟨_, _, rfl, rfl, rfl, trivial⟩
  | str s =>
    match s, h with
    | ⟨[c0, c1]⟩, h =>
      simp [PyVal.iter] at h
      obtain ⟨rfl, rfl⟩ := h
      exact ⟨_, _, rfl, rfl, rfl, rfl⟩
  | _ => simp_all [PyVal.IsScalar, PyVal.iter]

theorem foldlM_dictUpdate_first_key {x : PyVal} {es d : List _} (hx : x.IsScalar)
    (h : (x :: es).foldlM dictUpdate [] = .ok d) :
    ∃ ka ∈ keysOf (d.map Prod.fst), ka.Short := by
  rw [List.foldlM_cons, except_bind_eq_ok] at h
  obtain ⟨acc1, hstep, hrest⟩ := h
  obtain ⟨a, b, hiter, hset⟩ := dictUpdate_ok hstep
  obtain ⟨ka, hka, hkeys⟩ := setItem_keys hset
  obtain ⟨-, ka', -, hka', -, hshort⟩ := scalar_pair_keys hx hiter
  rw [hka, Option.some.injEq] at hka'
  subst hka'
  exact ⟨ka, (foldlM_dictUpdate_ok hrest).2 ((hkeys ka).mpr (.inr rfl)), hshort⟩

theorem dictCallback_flat_array_call (ps : List (PyVal × PyVal)) :
    (dictCallback).call (flatArray ps) 2 =
      PyVal.dict <$> (ps.flatMap fun p => [p.1, p.2]).foldlM dictUpdate [] := by
  simp only [dictCallback_call, flatArray, PyVal.isDict, pyDict, PyVal.iter]
  rfl

/-- The first key of the map read as a pair gives a number or a single character, and every
    key of the map that reads as a pair is two bytes or two characters long. -/
theorem foldlM_flat_array_new_key {ps : List (PyVal × PyVal)} (hne : ps ≠ [])
    (hs : ∀ p ∈ ps, p.1.IsScalar) {d : List (PyVal × PyVal)}
    (hfold : (ps.flatMap fun p => [p.1, p.2]).foldlM dictUpdate [] = .ok d) :
    ∃ k ∈ keysOf (d.map Prod.fst), k ∉ keysOf (ps.map Prod.fst) := by
  obtain ⟨⟨k1, v1⟩, rest, rfl⟩ := List.exists_cons_of_ne_nil hne
  obtain ⟨ka, hmem, hshort⟩ := foldlM_dictUpdate_first_key (hs _ (List.mem_cons_self _ _)) hfold
  refine ⟨ka, hmem, fun hka => ?_⟩
  obtain ⟨x, hx, hxk⟩ := mem_keysOf.mp hka
  obtain ⟨p, hp, rfl⟩ := List.mem_map.mp hx
  obtain ⟨_, _, hpiter⟩ :=
    (foldlM_dictUpdate_ok hfold).1 p.1 (List.mem_flatMap.mpr ⟨p, hp, by simp⟩)
  obtain ⟨kp, -, hkp, -, hpair, -⟩ := scalar_pair_keys (hs p hp) hpiter
  rw [hxk, Option.some.injEq] at hkp
  subst hkp
  exact Key.not_short_of_pairLike hshort hpair

theorem dictCallback_flat_array_unpaired (ps : List (PyVal × PyVal)) (hne : ps ≠ [])
    (hs : ∀ p ∈ ps, p.1.IsScalar) :
    (∃ e, (dictCallback).call (flatArray ps) 2 = .error e) ∨
    ∃ d, (dictCallback).call (flatArray ps) 2 = .ok (.dict d) ∧
      ∃ k ∈ keysOf (d.map Prod.fst), k ∉ keysOf (ps.map Prod.fst) := by
  rw [dictCallback_flat_array_call]
  rcases hfold : (ps.flatMap fun p => [p.1, p.2]).foldlM dictUpdate [] with e | d
  · exact .inl ⟨e, rfl⟩
  · exact .inr ⟨d, rfl, foldlM_flat_array_new_key hne hs hfold⟩

theorem dictCallback_flat_array_unpaired_on_two_bytes :
    [(PyVal.bytes [97, 98], PyVal.bytes [99, 100])] ≠ [] ∧
    (∀ p ∈ [(PyVal.bytes [97, 98], PyVal.bytes [99, 100])], p.1.IsScalar) ∧
    ((∃ e, (dictCallback).call (flatArray [(.bytes [97, 98], .bytes [99, 100])]) 2 = .error e) ∨
    ∃ d, (dictCallback).call (flatArray [(.bytes [97, 98], .bytes [99, 100])]) 2 = .ok (.dict d) ∧
      ∃ k ∈ keysOf (d.map Prod.fst),
        k ∉ keysOf ([(PyVal.bytes [97, 98], PyVal.bytes [99, 100])].map Prod.fst)) :=
  ⟨List.cons_ne_nil _ _, by simp [PyVal.IsScalar],
    dictCallback_flat_array_unpaired _ (List.cons_ne_nil _ _) (by simp [PyVal.IsScalar])⟩

example : (dictCallback).call (flatArray [(.bytes [97, 98], .bytes [99, 100])]) 2 =
    .ok (.dict [(.int 97, .int 98), (.int 99, .int 100)]) := rfl

theorem foldlM_dictUpdate_nodup {es acc d : List _} (h : es.foldlM dictUpdate acc = .ok d)
    (hnd : (keysOf (acc.map Prod.fst)).Nodup) : (keysOf (d.map Prod.fst)).Nodup := by
  induction es generalizing acc with
  | nil => cases h; exact hnd
  | cons e es ih =>
    rw [List.foldlM_cons, except_bind_eq_ok] at h
    obtain ⟨acc', hstep, hrest⟩ := h
    obtain ⟨k, v, -, hset⟩ := dictUpdate_ok hstep
    obtain ⟨key, hk, -⟩ := setItem_keys hset
    exact ih hrest ((setItem_lookup hk hset).2 hnd)

theorem dictCallback_never_repeats (response : PyVal) (version : Int)
    (hmap : ∀ ps, response = .dict ps → (keysOf (ps.map Prod.fst)).Nodup) (d : List (PyVal × PyVal))
    (h : (dictCallback).call response version = .ok (.dict d)) : (keysOf (d.map Prod.fst)).Nodup := by
  cases response
  case dict ps =>
    simp only [dictCallback_call, PyVal.isDict, if_true, Except.ok.injEq, PyVal.dict.injEq] at h
    subst h
    exact hmap _ rfl
  all_goals
    simp only [dictCallback_call, PyVal.isDict, Bool.false_eq_true, if_false, pyDict,
      except_bind_eq_ok, except_pure, Except.ok.injEq, PyVal.dict.injEq] at h
    obtain ⟨es, -, d', hfold, rfl⟩ := h
    exact foldlM_dictUpdate_nodup hfold List.nodup_nil

theorem dictCallback_never_repeats_on_pairs :
    (∀ ps, PyVal.list [.list [.int 1, .int 2], .list [.bool true, .int 3]] = .dict ps →
      (keysOf (ps.map Prod.fst)).Nodup) ∧
    (dictCallback).call (.list [.list [.int 1, .int 2], .list [.bool true, .int 3]]) 2 =
      .ok (.dict [(.int 1, .int 3)]) ∧
    (keysOf ([(PyVal.int 1, PyVal.int 3)].map Prod.fst)).Nodup :=
  have hmap : ∀ ps, PyVal.list [.list [.int 1, .int 2], .list [.bool true, .int 3]] = .dict ps →
      (keysOf (ps.map Prod.fst)).Nodup := fun _ h => by cases h
  have h : (dictCallback).call (.list [.list [.int 1, .int 2], .list [.bool true, .int 3]]) 2 =
      .ok (.dict [(.int 1, .int 3)]) := rfl
  ⟨hmap, h, dictCallback_never_repeats _ 2 hmap _ h⟩

end Coredis
