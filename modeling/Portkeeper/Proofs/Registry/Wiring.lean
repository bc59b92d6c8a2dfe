import Portkeeper.Registry.Basic
import Portkeeper.Proofs.Host.Holding

/-!
Accept loops and the sockets behind them. A loop has its socket exactly as long as it is open, and
no two loops have one socket between them, so that what is done to one loop is no matter to the
others.
-/

set_option autoImplicit false

namespace Portkeeper

namespace Loop

@[simp] theorem listener_close (now : Nat) (l : Loop) : (l.close now).listener = l.listener := by
  unfold close
  split <;> rfl

@[simp] theorem router_close (now : Nat) (l : Loop) : (l.close now).router = l.router := by
  unfold close
  split <;> rfl

/-- A loop of a list in which one was changed is that one, or another and as it was. -/
theorem of_getElem?_set {loops : List Loop} {id i : LoopId} {l m : Loop}
    (hm : (loops.set id l)[i]? = some m) : i = id ∧ m = l ∨ i ≠ id ∧ loops[i]? = some m := by
  by_cases hi : i = id
  · subst hi
    have hlt : i < (loops.set i l).length := (List.getElem?_eq_some_iff.mp hm).1
    rw [List.getElem?_set_self (by simpa using hlt)] at hm
    exact Or.inl ⟨rfl, (Option.some.inj hm).symm⟩
  · exact Or.inr ⟨hi, (List.getElem?_set_ne (Ne.symm hi)).symm.trans hm⟩

theorem of_getElem?_push {loops : List Loop} {i : LoopId} {l m : Loop}
    (hm : (loops ++ [l])[i]? = some m) : loops[i]? = some m ∨ i = loops.length ∧ m = l := by
  by_cases hi : i < loops.length
  · exact Or.inl ((List.getElem?_append_left hi).symm.trans hm)
  · have hlt : i < (loops ++ [l]).length := (List.getElem?_eq_some_iff.mp hm).1
    rw [List.length_append, List.length_singleton] at hlt
    obtain rfl : i = loops.length := Nat.le_antisymm (Nat.le_of_lt_succ hlt) (Nat.not_lt.mp hi)
    rw [List.getElem?_concat_length] at hm
    exact Or.inr ⟨rfl, (Option.some.inj hm).symm⟩

theorem isOver_mono {now now' : Nat} (hn : now ≤ now') {v : Visit} (hv : v.isOver now = true) :
    v.isOver now' = true := by
  unfold Visit.isOver at hv ⊢
  cases he : v.ends with
  | none => simp [he] at hv
  | some t =>
    simp only [he, Option.any_some, decide_eq_true_eq] at hv ⊢
    exact Nat.le_trans hv hn

theorem isFinished_mono {now now' : Nat} (hn : now ≤ now') {l : Loop}
    (hl : l.isFinished now = true) : l.isFinished now' = true := by
  unfold isFinished at hl ⊢
  split
  · simp_all
  · rename_i t ht
    simp only [ht, Bool.or_eq_true, decide_eq_true_eq, List.all_eq_true] at hl ⊢
    rcases hl with hl | hl
    · exact Or.inl (Nat.le_trans hl hn)
    · exact Or.inr fun v hv => isOver_mono hn (hl v hv)

/-- Nothing is in progress on a loop that has exited. -/
theorem inProgress_of_finished {now : Nat} {l : Loop} (hl : l.isFinished now = true) :
    l.inProgress now = [] := by
  simp [inProgress, hl]

end Loop

/-- Every loop that is open has its socket, every other one has let go of it, and no two loops have
the same. -/
structure Wired (h : Host) (loops : List Loop) : Prop where
  sound : h.Sound
  holds : ∀ {id : LoopId} {l : Loop}, loops[id]? = some l → l.isOpen = true → l.listener.Holds h
  released : ∀ {id : LoopId} {l : Loop}, loops[id]? = some l → l.isOpen = false →
    l.listener.Released h
  apart : ∀ {i j : LoopId} {l m : Loop}, loops[i]? = some l → loops[j]? = some m →
    l.listener.socket = m.listener.socket → i = j

namespace Wired

variable {h h' : Host} {loops : List Loop}

theorem nil (hs : h.Sound) : Wired h [] :=
  ⟨hs, by simp, by simp, by simp⟩

theorem bounded (hw : Wired h loops) {id : LoopId} {l : Loop} (hl : loops[id]? = some l) :
    l.listener.socket < h.nextSocket := by
  cases ho : l.isOpen with
  | true => exact (hw.holds hl ho).bounded
  | false => exact (hw.released hl ho).bounded

theorem spares (hw : Wired h loops) {id : LoopId} {l : Loop} (hl : loops[id]? = some l) :
    h.Spares l.listener.socket := by
  cases ho : l.isOpen with
  | true => exact (hw.holds hl ho).spares
  | false => exact (hw.released hl ho).spares

/-- What leaves the sockets of the loops alone leaves the loops wired. -/
theorem leaves (hw : Wired h loops) (hs : h'.Sound)
    (hh : ∀ {id : LoopId} {l : Loop}, loops[id]? = some l → h.Leaves h' l.listener.socket) :
    Wired h' loops where
  sound := hs
  holds hl ho := (hw.holds hl ho).leaves (hh hl)
  released hl ho := (hw.released hl ho).leaves (hh hl)
  apart := hw.apart

theorem later (hw : Wired h loops) (hs : h'.Sound) (hh : h.Later h') : Wired h' loops :=
  hw.leaves hs fun hl => hh.leaves (hw.bounded hl) (hw.spares hl)

theorem close (hw : Wired h loops) {id : LoopId} {l : Loop} (hl : loops[id]? = some l)
    (ho : l.isOpen = true) (now : Nat) :
    Wired (h.drop l.listener) (loops.set id (l.close now)) := by
  have hh := hw.holds hl ho
  -- Every loop of the new list is the closed one, or has another socket and is as it was.
  have hcases {i : LoopId} {m : Loop} (hm : (loops.set id (l.close now))[i]? = some m) :
      i = id ∧ m = l.close now ∨
        i ≠ id ∧ loops[i]? = some m ∧ m.listener.socket ≠ l.listener.socket :=
    (Loop.of_getElem?_set hm).imp_right fun hm => ⟨hm.1, hm.2, fun hc => hm.1 (hw.apart hm.2 hl hc)⟩
  refine ⟨hw.sound.drop _, fun {i m} hm hmo => ?_, fun {i m} hm hmo => ?_,
    fun {i j m n} hm hn he => ?_⟩
  · rcases hcases hm with ⟨-, rfl⟩ | ⟨-, hm, hne⟩
    · simp at hmo
    · exact (hw.holds hm hmo).drop hh hne
  · rcases hcases hm with ⟨-, rfl⟩ | ⟨-, hm, -⟩
    · simpa using hh.released_drop
    · exact (hw.released hm hmo).drop hw.sound _
  · rcases hcases hm with ⟨hi, rfl⟩ | ⟨-, hm, hmne⟩
    · rcases hcases hn with ⟨hj, -⟩ | ⟨-, -, hnne⟩
      · exact hi.trans hj.symm
      · exact absurd (by simpa using he.symm) hnne
    · rcases hcases hn with ⟨-, rfl⟩ | ⟨-, hn, -⟩
      · exact absurd (by simpa using he) hmne
      · exact hw.apart hm hn he

/-- Starting a loop on a socket that no loop has. -/
theorem push (hw : Wired h loops) {l : Loop} (ho : l.isOpen = true) (hl : l.listener.Holds h)
    (hne : ∀ {i : LoopId} {m : Loop}, loops[i]? = some m →
      m.listener.socket ≠ l.listener.socket) :
    Wired h (loops ++ [l]) := by
  refine ⟨hw.sound, fun {i m} hm hmo => ?_, fun {i m} hm hmo => ?_, fun {i j m n} hm hn he => ?_⟩
  · rcases Loop.of_getElem?_push hm with hm | ⟨-, rfl⟩
    · exact hw.holds hm hmo
    · exact hl
  · rcases Loop.of_getElem?_push hm with hm | ⟨-, rfl⟩
    · exact hw.released hm hmo
    · simp [ho] at hmo
  · rcases Loop.of_getElem?_push hm with hm' | ⟨hi, rfl⟩
    · rcases Loop.of_getElem?_push hn with hn' | ⟨-, rfl⟩
      · exact hw.apart hm' hn' he
      · exact absurd he (hne hm')
    · rcases Loop.of_getElem?_push hn with hn' | ⟨hj, -⟩
      · exact absurd he.symm (hne hn')
      · exact hi.trans hj.symm

/-- Connections that come and go are no matter for sockets. -/
theorem visit (hw : Wired h loops) {id : LoopId} {l l' : Loop} (hl : loops[id]? = some l)
    (hk : l'.listener = l.listener) (hc : l'.closedAt = l.closedAt) :
    Wired h (loops.set id l') := by
  have hcases {i : LoopId} {m : Loop} (hm : (loops.set id l')[i]? = some m) :
      ∃ m', loops[i]? = some m' ∧ m.listener = m'.listener ∧ m.isOpen = m'.isOpen := by
    rcases Loop.of_getElem?_set hm with ⟨rfl, rfl⟩ | ⟨-, hm⟩
    · exact ⟨l, hl, hk, by rw [Loop.isOpen, Loop.isOpen, hc]⟩
    · exact ⟨m, hm, rfl, rfl⟩
  refine ⟨hw.sound, fun {i m} hm hmo => ?_, fun {i m} hm hmo => ?_, fun {i j m n} hm hn he => ?_⟩
  · obtain ⟨m', hm', hk', ho'⟩ := hcases hm
    exact hk' ▸ hw.holds hm' (ho' ▸ hmo)
  · obtain ⟨m', hm', hk', ho'⟩ := hcases hm
    exact hk' ▸ hw.released hm' (ho' ▸ hmo)
  · obtain ⟨m', hm', hk', -⟩ := hcases hm
    obtain ⟨n', hn', hk'', -⟩ := hcases hn
    exact hw.apart hm' hn' (hk' ▸ hk'' ▸ he)

end Wired
end Portkeeper
