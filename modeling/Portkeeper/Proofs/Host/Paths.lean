import Portkeeper.Host.Files

/-!
Where paths lead when a file comes or goes. No path leads through a place that is free or holds a
file or a socket, so paths lead where they led before when only such a place has changed; when a
link goes, a path that led through it leads nowhere.
-/

set_option autoImplicit false

namespace Portkeeper
namespace Files

/-- No path leads through a place: nothing stands there, or something that is neither a directory
nor a link. -/
structure Ends (f : Files) (q : Place) : Prop where
  directory : f.at? q ≠ some .directory
  link : ∀ t, f.at? q ≠ some (.link t)

theorem ends_of_free {f : Files} {q : Place} (h : f.at? q = none) : f.Ends q :=
  ⟨by simp [h], by simp [h]⟩

theorem ends_of_socket {f : Files} {q : Place} {m id : Nat} (h : f.at? q = some (.socket m id)) :
    f.Ends q :=
  ⟨by simp [h], by simp [h]⟩

theorem Ends.ne_nil {f : Files} {q : Place} (h : f.Ends q) : q ≠ [] := by
  rintro rfl
  exact h.directory rfl

/-- Only a directory stands at the root. -/
theorem ne_nil_of_at? {f : Files} {q : Place} {n : Node} (h : f.at? q = some n)
    (hn : n ≠ .directory) : q ≠ [] := by
  rintro rfl
  exact hn (Option.some.inj h).symm

/-! ### The steps of a walk -/

section
variable {f : Files} {b : Bool} {base : Place} {step : List Char} {rest : List (List Char)}

theorem stretch_end (hs : step ≠ ['.', '.']) (hl : ¬255 < (Text.utf8 step).length)
    (he : f.Ends (base ++ [step])) :
    f.stretch b base [step] = .straight (.ok (base ++ [step])) := by
  rw [stretch, if_neg hs, if_neg hl]
  dsimp only
  split
  · simp
  · exact absurd ‹_› he.directory
  · exact absurd ‹_› (he.link _)
  · simp

theorem stretch_blocked (hs : step ≠ ['.', '.']) (he : f.Ends (base ++ [step])) (hr : rest ≠ []) :
    ∃ e, f.stretch b base (step :: rest) = .straight (.error e) := by
  rw [stretch, if_neg hs]
  split
  · exact ⟨_, rfl⟩
  · simp only [hr]
    split
    · exact ⟨_, rfl⟩
    · exact absurd ‹_› he.directory
    · exact absurd ‹_› (he.link _)
    · exact ⟨_, rfl⟩

theorem stretch_directory (hs : step ≠ ['.', '.']) (hl : ¬255 < (Text.utf8 step).length)
    (hd : f.at? (base ++ [step]) = some .directory) :
    f.stretch b base (step :: rest) = f.stretch b (base ++ [step]) rest := by
  rw [stretch, if_neg hs, if_neg hl]
  simp only [hd]

theorem stretch_stop {t : List Char} (hs : step ≠ ['.', '.'])
    (hl : ¬255 < (Text.utf8 step).length) (ht : f.at? (base ++ [step]) = some (.link t)) :
    f.stretch false base [step] = .straight (.ok (base ++ [step])) := by
  rw [stretch, if_neg hs, if_neg hl]
  simp [ht]

theorem stretch_link {t : List Char} (hs : step ≠ ['.', '.'])
    (hl : ¬255 < (Text.utf8 step).length) (ht : f.at? (base ++ [step]) = some (.link t))
    (hr : ¬(rest = [] ∧ b = false)) :
    f.stretch b base (step :: rest) =
      .bend (if PathText.isAbsolute t then [] else base) (PathText.steps t ++ rest) := by
  rw [stretch, if_neg hs, if_neg hl]
  simp only [ht, hr, if_false]

end

/-- When only one place differs, and no path leads through it any more, steps come to where they
came to, or nowhere if they could lead through that place before. -/
theorem stretch_or_error {f f' : Files} {q : Place} (hne : ∀ p, p ≠ q → f'.at? p = f.at? p)
    (hq : f'.Ends q) {base : Place} {steps : List (List Char)}
    (h : ∀ e, f.stretch false base steps ≠ .straight (.error e)) :
    f'.stretch false base steps = f.stretch false base steps ∨
      ¬f.Ends q ∧ ∃ e, f'.stretch false base steps = .straight (.error e) := by
  -- A step onto the changed place ends there if it is the last one, and is an error if it is not.
  fun_induction Files.stretch f false base steps with
  | case1 base => exact Or.inl rfl
  | case2 base rest ih =>
    rw [stretch_up]
    exact ih h
  | case3 base step rest hs hl => exact absurd rfl (h _)
  | case4 base step rest hs hl place hn =>
    by_cases hr : rest = []
    · subst hr
      have he : f'.Ends place := by
        by_cases hp : place = q
        · exact hp ▸ hq
        · exact ends_of_free ((hne place hp).trans hn)
      exact Or.inl (stretch_end hs hl he)
    · exact absurd (by rw [if_neg hr]) (h _)
  | case5 base step rest hs hl place hd ih =>
    by_cases hp : place = q
    · have he : f'.Ends place := hp ▸ hq
      by_cases hr : rest = []
      · subst hr
        exact Or.inl (stretch_end hs hl he)
      · have hd : f.at? q = some .directory := hp ▸ hd
        exact Or.inr ⟨fun hc => hc.directory hd, stretch_blocked hs he hr⟩
    · rw [stretch_directory hs hl ((hne place hp).trans hd)]
      exact ih h
  | case6 base step rest hs hl place t ht hr =>
    obtain ⟨rfl, -⟩ := hr
    by_cases hp : place = q
    · have he : f'.Ends place := hp ▸ hq
      exact Or.inl (stretch_end hs hl he)
    · exact Or.inl (stretch_stop hs hl ((hne place hp).trans ht))
  | case7 base step rest hs hl place t ht hr =>
    have hrest : rest ≠ [] := fun hc => hr ⟨hc, rfl⟩
    by_cases hp : place = q
    · have he : f'.Ends place := hp ▸ hq
      have ht : f.at? q = some (.link t) := hp ▸ ht
      exact Or.inr ⟨fun hc => hc.link t ht, stretch_blocked hs he hrest⟩
    · exact Or.inl (stretch_link hs hl ((hne place hp).trans ht) hr)
  | case8 base step rest hs hl place node hd hk hn =>
    by_cases hr : rest = []
    · subst hr
      have he : f'.Ends place := by
        by_cases hp : place = q
        · exact hp ▸ hq
        · have ha : f'.at? place = some node := (hne place hp).trans hn
          refine ⟨fun hc => hd ?_, fun t hc => hk t ?_⟩
          · exact Option.some.inj (ha.symm.trans hc)
          · exact Option.some.inj (ha.symm.trans hc)
      exact Or.inl (stretch_end hs hl he)
    · exact absurd (by rw [if_neg hr]) (h _)

section
variable {f : Files} {b : Bool} {n : Nat} {base base' : Place} {steps steps' : List (List Char)}

theorem walk_straight {o : Except Nat Place} (h : f.stretch b base steps = .straight o) :
    f.walk b n base steps = o := by
  cases n <;> simp only [walk, h]

theorem walk_bend (h : f.stretch b base steps = .bend base' steps') :
    f.walk b (n + 1) base steps = f.walk b n base' steps' := by
  simp only [walk, h]

/-- A walk that comes to its end goes straight there, or goes on after a bend. -/
theorem walk_ok {r : Place} (h : f.walk b n base steps = .ok r) :
    f.stretch b base steps = .straight (.ok r) ∨ ∃ m base' steps', n = m + 1 ∧
      f.stretch b base steps = .bend base' steps' ∧ f.walk b m base' steps' = .ok r := by
  cases hs : f.stretch b base steps with
  | straight o =>
    rw [walk_straight hs] at h
    exact Or.inl (congrArg Stretch.straight h)
  | bend base' steps' =>
    cases n with
    | zero => simp [walk, hs] at h
    | succ m => exact Or.inr ⟨m, base', steps', rfl, rfl, (walk_bend hs).symm.trans h⟩

end

/-- A walk comes to where it came to, or nowhere if it could lead through that place before. -/
theorem walk_or_error {f f' : Files} {q : Place} (hne : ∀ p, p ≠ q → f'.at? p = f.at? p)
    (hq : f'.Ends q) {n : Nat} {base : Place} {steps : List (List Char)} {r : Place}
    (h : f.walk false n base steps = .ok r) :
    f'.walk false n base steps = .ok r ∨
      ¬f.Ends q ∧ ∃ e, f'.walk false n base steps = .error e := by
  induction n using Nat.strongRecOn generalizing base steps with
  | ind n ih =>
    have hno (e : Nat) : f.stretch false base steps ≠ .straight (.error e) := by
      intro he
      rw [walk_straight he] at h
      cases h
    rcases stretch_or_error hne hq hno with he | ⟨hends, e, he⟩
    · obtain hst | ⟨m, base', steps', rfl, hst, hw⟩ := walk_ok h
      · exact Or.inl (walk_straight (he.trans hst))
      · rw [walk_bend (he.trans hst)]
        exact ih m (Nat.lt_succ_self m) hw
    · exact Or.inr ⟨hends, e, walk_straight he⟩

/-- Steps that stop at something other than a link come to the same when links are followed. -/
theorem stretch_follow {f : Files} {base : Place} {steps : List (List Char)}
    (h : ∀ r, f.stretch false base steps = .straight (.ok r) → ∀ t, f.at? r ≠ some (.link t)) :
    f.stretch true base steps = f.stretch false base steps := by
  fun_induction Files.stretch f false base steps with
  | case1 base => rfl
  | case2 base rest ih =>
    rw [stretch_up]
    exact ih h
  | case3 base step rest hs hl => rw [stretch, if_neg hs, if_pos hl]
  | case4 base step rest hs hl place hn =>
    rw [stretch, if_neg hs, if_neg hl]
    simp only [place, hn]
  | case5 base step rest hs hl place hd ih =>
    rw [stretch_directory hs hl hd]
    exact ih h
  | case6 base step rest hs hl place t ht hr => exact absurd ht (h place rfl t)
  | case7 base step rest hs hl place t ht hr => rw [stretch_link hs hl ht (by simp)]
  | case8 base step rest hs hl place node hd hk hn =>
    rw [stretch, if_neg hs, if_neg hl]
    simp only [place, hn]

/-- A walk that stops at something other than a link would have followed it in vain. -/
theorem walk_follow {f : Files} {n : Nat} {base : Place} {steps : List (List Char)} {r : Place}
    (h : f.walk false n base steps = .ok r) (hr : ∀ t, f.at? r ≠ some (.link t)) :
    f.walk true n base steps = .ok r := by
  induction n using Nat.strongRecOn generalizing base steps with
  | ind n ih =>
    obtain hst | ⟨m, base', steps', rfl, hst, hw⟩ := walk_ok h
    · refine walk_straight ((stretch_follow fun r' hr' => ?_).trans hst)
      cases hst.symm.trans hr'
      exact hr
    · rw [walk_bend ((stretch_follow (by simp [hst])).trans hst)]
      exact ih m (Nat.lt_succ_self m) hw

/-! ### Paths that name a file -/

/-- A path whose last part is a name, so that it can be the path of a file. -/
structure Plain (p : List Char) : Prop where
  closed : PathText.hasOpenEnd p = false
  name : PathText.endsInDirectory p = false

theorem Plain.ne_nil {p : List Char} (hp : Plain p) : p ≠ [] := by
  rintro rfl
  have hname := hp.name
  simp [PathText.endsInDirectory, PathText.split, Text.splitAll] at hname

theorem withoutEnd_of_closed {p : List Char} (h : PathText.hasOpenEnd p = false) :
    PathText.withoutEnd p = p := by
  simp [PathText.withoutEnd, h]

/-- Where a path is looked up from. -/
def origin (f : Files) (p : List Char) : Place := if PathText.isAbsolute p then [] else f.here

theorem entry_eq_ok_iff {f : Files} {p : List Char} (hp : Plain p) {r : Place} :
    f.entry p = .ok r ↔ (p ≠ [] ∧ ¬4095 < (Text.utf8 p).length) ∧
      f.walk false linkLimit (f.origin p) (PathText.steps p) = .ok r := by
  unfold entry locate origin
  rw [withoutEnd_of_closed hp.closed, hp.name]
  by_cases h0 : p = []
  · simp [h0]
  by_cases h1 : 4095 < (Text.utf8 p).length
  · simp [h0, h1]
  simp only [h0, h1, if_false, Bool.or_false, Bool.false_eq_true]
  generalize f.walk _ _ _ _ = w
  cases w <;> simp [h0]

theorem plain_of_entry {f : Files} {p : List Char} {r : Place} (hc : PathText.hasOpenEnd p = false)
    (he : f.entry p = .ok r) (hd : f.at? r ≠ some .directory) : Plain p := by
  refine ⟨hc, ?_⟩
  cases hn : PathText.endsInDirectory p with
  | false => rfl
  | true =>
    unfold entry locate at he
    rw [withoutEnd_of_closed hc, hn] at he
    simp only [if_true] at he
    split at he
    · cases he
    · split at he
      · cases he
      · split at he
        · cases he
        · split at he
          · rename_i ha
            obtain rfl := Except.ok.inj he
            exact absurd ha hd
          · cases he
          · cases he

theorem locate_follow {f : Files} {p : List Char} (hp : Plain p) {r : Place}
    (he : f.entry p = .ok r) (hr : ∀ t, f.at? r ≠ some (.link t)) :
    f.locate true p = .ok r := by
  obtain ⟨⟨h0, h1⟩, hw⟩ := (entry_eq_ok_iff hp).mp he
  unfold origin at hw
  unfold locate
  rw [if_neg h0, if_neg h1]
  simp only [Bool.true_or, walk_follow hw hr, hp.name, Bool.false_eq_true, if_false]

/-- File systems that differ at one place at most. -/
structure DifferAt (q : Place) (f f' : Files) : Prop where
  here : f'.here = f.here
  elsewhere : ∀ p, p ≠ q → f'.at? p = f.at? p

theorem DifferAt.symm {q : Place} {f f' : Files} (h : DifferAt q f f') : DifferAt q f' f :=
  ⟨h.here.symm, fun p hp => (h.elsewhere p hp).symm⟩

theorem DifferAt.entry_or_error {q : Place} {f f' : Files} (hd : DifferAt q f f') (hq : f'.Ends q)
    {p : List Char} (hp : Plain p) {r : Place} (he : f.entry p = .ok r) :
    f'.entry p = .ok r ∨ ¬f.Ends q ∧ ∀ r', f'.entry p ≠ .ok r' := by
  obtain ⟨hg, hw⟩ := (entry_eq_ok_iff hp).mp he
  have ho : f'.origin p = f.origin p := by rw [origin, origin, hd.here]
  rcases walk_or_error hd.elsewhere hq hw with hw' | ⟨hl, e, hw'⟩
  · exact Or.inl ((entry_eq_ok_iff hp).mpr ⟨hg, ho ▸ hw'⟩)
  · refine Or.inr ⟨hl, fun r' hr' => ?_⟩
    have hc := ((entry_eq_ok_iff hp).mp hr').2
    rw [ho, hw'] at hc
    cases hc

/-- Paths lead where they led when no path leads through what has changed. -/
theorem DifferAt.entry_iff {q : Place} {f f' : Files} (hd : DifferAt q f f') (hq : f.Ends q)
    (hq' : f'.Ends q) {p : List Char} (hp : Plain p) (r : Place) :
    f'.entry p = .ok r ↔ f.entry p = .ok r := by
  constructor
  · intro he
    exact (hd.symm.entry_or_error hq hp he).resolve_right fun hc => hc.1 hq'
  · intro he
    exact (hd.entry_or_error hq' hp he).resolve_right fun hc => hc.1 hq

/-! ### Files that come and go -/

theorem at?_put (f : Files) {q : Place} (hq : q ≠ []) (n : Node) (p : Place) :
    (f.put q n).at? p = if p = q then some n else f.at? p := by
  unfold at? put
  by_cases hp : p = q
  · subst hp
    simp [hq]
  · simp [hp, Table.get?_insert_of_ne f.nodes n hp]

theorem put_put (f : Files) (q : Place) (n m : Node) : (f.put q n).put q m = f.put q m := by
  simp [put, Table.insert, Table.erase, List.filter_filter]

theorem differAt_put (f : Files) {q : Place} (hq : q ≠ []) (n : Node) :
    DifferAt q f (f.put q n) :=
  ⟨rfl, fun p hp => by rw [at?_put f hq, if_neg hp]⟩

/-- The file system without what stands at a place. -/
def clearAt (f : Files) (q : Place) : Files := { f with nodes := f.nodes.erase q }

theorem at?_clearAt (f : Files) {q : Place} (hq : q ≠ []) (p : Place) :
    (f.clearAt q).at? p = if p = q then none else f.at? p := by
  unfold at? clearAt
  by_cases hp : p = q
  · subst hp
    simp [hq]
  · simp [hp, Table.get?_erase_of_ne f.nodes hp]

theorem at?_clearAt_self (f : Files) {q : Place} (hq : q ≠ []) : (f.clearAt q).at? q = none := by
  rw [at?_clearAt f hq, if_pos rfl]

theorem at?_of_clearAt {f : Files} {q p : Place} {n : Node} (hq : q ≠ [])
    (h : (f.clearAt q).at? p = some n) : p ≠ q ∧ f.at? p = some n := by
  rw [at?_clearAt f hq] at h
  split at h
  · cases h
  · exact ⟨by assumption, h⟩

theorem differAt_clearAt (f : Files) {q : Place} (hq : q ≠ []) : DifferAt q f (f.clearAt q) :=
  ⟨rfl, fun p hp => by rw [at?_clearAt f hq, if_neg hp]⟩

theorem create_ok {f f' : Files} {p : List Char} {n : Node} (h : f.create p n = .ok f') :
    ∃ q, f.entry p = .ok q ∧ f.at? q = none ∧ Plain p ∧ f' = f.put q n := by
  unfold create at h
  split at h
  · cases h
  · rename_i q he
    split at h
    · cases h
    · rename_i hn
      split at h
      · cases h
      · rename_i hc
        have hn : f.at? q = none := by simpa using hn
        cases h
        exact ⟨q, he, hn, plain_of_entry (by simpa using hc) he (by simp [hn]), rfl⟩

theorem remove_ok {f f' : Files} {p : List Char} (h : f.remove p = .ok f') :
    ∃ q node, f.entry p = .ok q ∧ f.at? q = some node ∧ node ≠ .directory ∧ Plain p ∧
      f' = f.clearAt q := by
  unfold remove at h
  split at h
  · cases h
  · rename_i q he
    split at h
    · cases h
    · cases h
    · rename_i node hnd hn
      split at h
      · cases h
      · rename_i hc
        cases h
        have hd : node ≠ .directory := fun hd => hnd hd
        refine ⟨q, node, he, hn, hd, plain_of_entry (by simpa using hc) he ?_, rfl⟩
        intro hdir
        exact hd (Option.some.inj (hn.symm.trans hdir))

theorem remove_eq {f : Files} {p : List Char} (hp : Plain p) {q : Place} {node : Node}
    (he : f.entry p = .ok q) (hn : f.at? q = some node) (hd : node ≠ .directory) :
    f.remove p = .ok (f.clearAt q) := by
  unfold remove
  simp only [he, hn]
  cases node with
  | directory => exact absurd rfl hd
  | file content => simp [hp.closed, clearAt]
  | link t => simp [hp.closed, clearAt]
  | socket m id => simp [hp.closed, clearAt]

end Files
end Portkeeper
