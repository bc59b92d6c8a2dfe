import Portkeeper.Handoff
import Portkeeper.Proofs.Address.Numerals
import Portkeeper.Proofs.Text.Characters

/-!
What a handoff says, for every value of its variables. Only a text can say anything: a variable that is no
UTF-8 counts as unset, even where a text that is no number is an error.
-/

set_option autoImplicit false

namespace Portkeeper
open Text

namespace Environment

variable {env : Environment} {name : String}

theorem text?_eq_some_iff {cs : List Char} :
    env.text? name = some cs ↔ env.get? name = some (utf8 cs) := by
  unfold text?
  simp [Option.bind_eq_some_iff, ofUtf8?_eq_some_iff]

theorem text?_eq_none_iff : env.text? name = none ↔ ∀ cs, env.get? name ≠ some (utf8 cs) := by
  simp [Option.eq_none_iff_forall_ne_some, text?_eq_some_iff]

theorem text?_of_unset (h : env.get? name = none) : env.text? name = none := by
  simp [text?, h]

end Environment

namespace Handoff

variable {own : UInt32} {env : Environment}

/-- The variable for the process holds the number of this one, with white space around it at most. -/
def Names (env : Environment) (own : UInt32) : Prop :=
  ∃ cs, env.get? pidVariable = some (utf8 cs) ∧ Numeral.Writes (trim cs) own.toNat

/-- The variable for the count holds a number of descriptors, with white space around it at most. -/
def Counts (env : Environment) (n : Nat) : Prop :=
  ∃ cs, env.get? countVariable = some (utf8 cs) ∧ Numeral.Writes (trim cs) n ∧ n ≤ Numeral.max64

/-- The variable for the count holds a text that is no number of descriptors, for some cause. -/
def Garbles (env : Environment) (cs : List Char) (cause : NumeralError) : Prop :=
  env.get? countVariable = some (utf8 cs) ∧ Numeral.read Numeral.max64 (trim cs) = .error cause

/-- The complaint about a text that is no number of descriptors. -/
def garbled (cs : List Char) (cause : NumeralError) : EndpointError :=
  .activation ("Invalid " ++ countVariable ++ " " ++ quoted (String.ofList cs) ++ ": " ++ cause.message)

theorem names_iff {cs : List Char} (h : env.text? pidVariable = some cs) :
    Names env own ↔ Numeral.read Numeral.max32 (trim cs) = .ok own.toNat := by
  have hle : own.toNat ≤ Numeral.max32 := Nat.le_of_lt_succ own.toNat_lt
  rw [Environment.text?_eq_some_iff] at h
  rw [Numeral.read_eq_ok_iff, and_iff_left hle]
  constructor
  · rintro ⟨cs', h', hw⟩
    rw [h, Option.some.injEq] at h'
    rwa [utf8_injective h']
  · exact fun hw => ⟨cs, h, hw⟩

theorem not_names (h : env.text? pidVariable = none) : ¬ Names env own :=
  fun ⟨cs, hcs, _⟩ => Environment.text?_eq_none_iff.mp h cs hcs

theorem counts_iff {cs : List Char} (h : env.text? countVariable = some cs) {n : Nat} :
    Counts env n ↔ Numeral.read Numeral.max64 (trim cs) = .ok n := by
  rw [Environment.text?_eq_some_iff] at h
  rw [Numeral.read_eq_ok_iff]
  constructor
  · rintro ⟨cs', h', hw⟩
    rw [h, Option.some.injEq] at h'
    rwa [utf8_injective h']
  · exact fun hw => ⟨cs, h, hw⟩

theorem Counts.unique {n m : Nat} (hn : Counts env n) (hm : Counts env m) : n = m := by
  obtain ⟨cs, hcs, hw, -⟩ := hn
  obtain ⟨cs', hcs', hw', -⟩ := hm
  rw [hcs, Option.some.injEq] at hcs'
  rw [← utf8_injective hcs'] at hw'
  exact hw.unique hw'

/-- A text that counts is not garbled. -/
theorem Garbles.not_counts {cs : List Char} {cause : NumeralError} (h : Garbles env cs cause) (n : Nat) :
    ¬ Counts env n := by
  obtain ⟨hcs, hread⟩ := h
  rw [counts_iff (Environment.text?_eq_some_iff.mpr hcs), hread]
  exact nofun

/-- What a handoff can say: nothing to this process, a number of descriptors, or something that is no
number. -/
theorem read_cases (own : UInt32) (env : Environment) :
    (read own.toNat env = .ok none ∧
      (¬ Names env own ∨ ∀ cs, env.get? countVariable ≠ some (utf8 cs))) ∨
    (∃ n, read own.toNat env = .ok (some ⟨own.toNat, n⟩) ∧ Names env own ∧ Counts env n) ∨
    ∃ cs cause, read own.toNat env = .error (garbled cs cause) ∧ Names env own ∧
      Garbles env cs cause := by
  unfold read
  cases hpid : env.text? pidVariable with
  | none => exact .inl ⟨rfl, .inl (not_names hpid)⟩
  | some pid =>
    cases hcount : env.text? countVariable with
    | none => exact .inl ⟨rfl, .inr (Environment.text?_eq_none_iff.mp hcount)⟩
    | some count =>
      have hnames : Names env own ↔ _ := names_iff hpid
      dsimp only
      cases hp : Numeral.read Numeral.max32 (trim pid) with
      | error e =>
        rw [hp] at hnames
        exact .inl ⟨rfl, .inl fun h => nomatch hnames.mp h⟩
      | ok p =>
        rw [hp, Except.ok.injEq] at hnames
        dsimp only
        by_cases h : p = own.toNat
        · rw [if_neg fun hne => hne h]
          subst h
          cases hn : Numeral.read Numeral.max64 (trim count) with
          | ok n => exact .inr (.inl ⟨n, rfl, hnames.mpr rfl, (counts_iff hcount).mpr hn⟩)
          | error e =>
            exact .inr (.inr ⟨count, e, rfl, hnames.mpr rfl, Environment.text?_eq_some_iff.mp hcount, hn⟩)
        · rw [if_pos h]
          exact .inl ⟨rfl, .inl fun hn => h (hnames.mp hn)⟩

theorem read_eq_some_iff {h : Handoff} : read own.toNat env = .ok (some h) ↔
    Names env own ∧ h.pid = own.toNat ∧ Counts env h.count := by
  rcases read_cases own env with ⟨hread, hnone⟩ | ⟨n, hread, hnames, hn⟩ | ⟨cs, cause, hread, -, hg⟩
  · rw [hread]
    refine ⟨nofun, fun ⟨hnames, _, hcount⟩ => ?_⟩
    obtain ⟨cs, hcs, -⟩ := hcount
    exact hnone.elim (fun h => absurd hnames h) fun h => absurd hcs (h cs)
  · rw [hread]
    constructor
    · rintro ⟨⟩
      exact ⟨hnames, rfl, hn⟩
    · rintro ⟨-, hpid, hcount⟩
      rw [hn.unique hcount, ← hpid]
  · rw [hread]
    exact ⟨nofun, fun ⟨_, _, hcount⟩ => absurd hcount (hg.not_counts _)⟩

theorem read_eq_none_iff : read own.toNat env = .ok none ↔
    ¬ Names env own ∨ ∀ cs, env.get? countVariable ≠ some (utf8 cs) := by
  -- Where there is something to read, this process is named and there is a text for the count.
  have hsome (hnames : Names env own) (htext : ∃ cs, env.get? countVariable = some (utf8 cs)) :
      ¬ (¬ Names env own ∨ ∀ cs, env.get? countVariable ≠ some (utf8 cs)) := by
    obtain ⟨cs, hcs⟩ := htext
    exact fun h => h.elim (fun h => h hnames) fun h => h cs hcs
  rcases read_cases own env with ⟨hread, hnone⟩ | ⟨n, hread, hnames, hn⟩ | ⟨cs, cause, hread, hnames, hg⟩
  · exact ⟨fun _ => hnone, fun _ => hread⟩
  · rw [hread]
    exact ⟨nofun, fun h => absurd h (hsome hnames (hn.imp fun _ h => h.1))⟩
  · rw [hread]
    exact ⟨nofun, fun h => absurd h (hsome hnames ⟨cs, hg.1⟩)⟩

theorem exists_read_error_iff : (∃ e, read own.toNat env = .error e) ↔
    Names env own ∧ (∃ cs, env.get? countVariable = some (utf8 cs)) ∧ ∀ n, ¬ Counts env n := by
  rcases read_cases own env with ⟨hread, hnone⟩ | ⟨n, hread, -, hn⟩ | ⟨cs, cause, hread, hnames, hg⟩
  · rw [hread]
    refine ⟨nofun, fun ⟨hnames, ⟨cs, hcs⟩, _⟩ => ?_⟩
    exact hnone.elim (fun h => absurd hnames h) fun h => absurd hcs (h cs)
  · rw [hread]
    exact ⟨nofun, fun ⟨_, _, hno⟩ => absurd hn (hno n)⟩
  · exact ⟨fun _ => ⟨hnames, ⟨cs, hg.1⟩, hg.not_counts⟩, fun _ => ⟨_, hread⟩⟩

theorem garbles_of_read {e : EndpointError} (h : read own.toNat env = .error e) :
    ∃ cs cause, Garbles env cs cause ∧ e = garbled cs cause := by
  rcases read_cases own env with ⟨hread, -⟩ | ⟨n, hread, -⟩ | ⟨cs, cause, hread, -, hg⟩
  all_goals
    rw [hread] at h
    cases h
  exact ⟨cs, cause, hg, rfl⟩

theorem get?_clear (env : Environment) (name : String) :
    (clear env).get? name =
      if name ∈ [pidVariable, countVariable, namesVariable] then none else env.get? name := by
  unfold clear
  by_cases h : name = namesVariable
  · rw [h, Environment.get?_erase_self, if_pos (by simp)]
  · rw [Environment.get?_erase_of_ne _ h]
    by_cases h : name = countVariable
    · rw [h, Environment.get?_erase_self, if_pos (by simp)]
    · rw [Environment.get?_erase_of_ne _ h]
      by_cases h : name = pidVariable
      · rw [h, Environment.get?_erase_self, if_pos (by simp)]
      · rw [Environment.get?_erase_of_ne _ h, if_neg (by simp [*])]

/-- Whoever reads a cleared handoff finds none. -/
theorem read_clear (own : Nat) (env : Environment) : read own (clear env) = .ok none := by
  have hpid : (clear env).text? pidVariable = none :=
    Environment.text?_of_unset ((get?_clear env pidVariable).trans (if_pos (by simp)))
  unfold read
  rw [hpid]

/-- A handoff is read as what its variables say: a number of descriptors for this process, an error where
there is a text for their number that is none, and nothing otherwise. Whatever they say, they are cleared
and nothing else is, so that the handoff is read once. -/
theorem take_exact (own : UInt32) (env : Environment) :
    (∀ h, (take own.toNat env).1 = .ok (some h) ↔
      Names env own ∧ h.pid = own.toNat ∧ Counts env h.count) ∧
    ((∃ e, (take own.toNat env).1 = .error e) ↔
      Names env own ∧ (∃ cs, env.get? countVariable = some (utf8 cs)) ∧ ∀ n, ¬ Counts env n) ∧
    (∀ e, (take own.toNat env).1 = .error e → ∃ cs cause, Garbles env cs cause ∧ e = garbled cs cause) ∧
    ((take own.toNat env).1 = .ok none ↔
      ¬ Names env own ∨ ∀ cs, env.get? countVariable ≠ some (utf8 cs)) ∧
    (∀ name, (take own.toNat env).2.get? name =
      if name ∈ [pidVariable, countVariable, namesVariable] then none else env.get? name) ∧
    ∀ again, (take again (take own.toNat env).2).1 = .ok none :=
  ⟨fun _ => read_eq_some_iff, exists_read_error_iff, fun _ h => garbles_of_read h, read_eq_none_iff,
    get?_clear env, fun again => read_clear again env⟩

/-- Signs, zeros and white space are no matter, and the names of descriptors are not looked at. -/
theorem take_exact_padded :
    (take 7 [("LISTEN_PID", utf8Bytes "\n+007 "), ("LISTEN_FDS", utf8Bytes " 02"),
      ("LISTEN_FDNAMES", [255])]).1 = .ok (some ⟨7, 2⟩) := by
  refine ((take_exact 7 _).1 ⟨7, 2⟩).mpr ⟨⟨"\n+007 ".toList, rfl, ?_⟩, rfl, ⟨" 02".toList, rfl, ?_⟩⟩
  · exact (Numeral.read_eq_ok_iff.mp (rfl : Numeral.read Numeral.max32 _ = .ok 7)).1
  · exact Numeral.read_eq_ok_iff.mp rfl

/-- A count that is no UTF-8 is no error, although the handoff is for this process. -/
theorem take_unreadable :
    let env : Environment := [("LISTEN_PID", utf8Bytes "7"), ("LISTEN_FDS", [255])]
    Names env 7 ∧ env.get? countVariable = some [255] ∧ (∀ n, ¬ Counts env n) ∧
      (take 7 env).1 = .ok none := by
  have hbytes (cs : List Char) : some [255] ≠ some (utf8 cs) := by
    intro h
    have hread : ofUtf8? [255] = none := by decide +kernel
    rw [ofUtf8?_eq_some_iff.mpr (Option.some.inj h)] at hread
    cases hread
  refine ⟨⟨"7".toList, rfl, ?_⟩, rfl, fun n ⟨cs, hcs, _⟩ => hbytes cs hcs,
    (@read_eq_none_iff 7 _).mpr (.inr hbytes)⟩
  exact (Numeral.read_eq_ok_iff.mp (rfl : Numeral.read Numeral.max32 _ = .ok 7)).1

end Handoff
end Portkeeper
