import Mathlib.Tactic.SplitIfs
import Portkeeper.Message
import Portkeeper.Proofs.Text.Characters

/-!
JSON that is written is read back. A decoder reads a value when it takes just the bytes of it off the
front; the decoders of strings, records and lists do so with what the encoders make of them, whatever
follows, and so do those of the messages.
-/

set_option autoImplicit false

namespace Portkeeper

namespace Json
open Text

/-! ### The content of a string -/

theorem content_plain {b : UInt8} {r more : List UInt8} {m : Nat} (hcode : 32 ≤ b.toNat)
    (hquote : b.toNat ≠ 34) (hslash : b.toNat ≠ 92) (h : content r = .ok (more, m)) :
    content (b :: r) = .ok (b :: more, m + 1) := by
  have hcontrol : ¬ b < 32 := by
    rw [UInt8.lt_iff_toNat_lt]
    exact Nat.not_lt.mpr hcode
  rw [content]
  · rw [if_neg hcontrol, h]
  · rintro rfl
    exact hquote rfl
  · rintro rfl
    exact hslash rfl

theorem content_escape {e r text more : List UInt8} {m : Nat}
    (he : escape (e ++ r) = .ok (text, e.length)) (h : content r = .ok (more, m)) :
    content (92 :: (e ++ r)) = .ok (text ++ more, m + e.length + 1) := by
  rw [content]
  simp [he, h]

/-- Bytes that need no escape. -/
theorem content_append {bs r more : List UInt8} {m : Nat}
    (hbs : ∀ b ∈ bs, 32 ≤ b.toNat ∧ b.toNat ≠ 34 ∧ b.toNat ≠ 92) (h : content r = .ok (more, m)) :
    content (bs ++ r) = .ok (bs ++ more, m + bs.length) := by
  induction bs with
  | nil => exact h
  | cons b bs ih =>
    obtain ⟨hcode, hquote, hslash⟩ := hbs b List.mem_cons_self
    have hrest := ih fun b hb => hbs b (List.mem_cons_of_mem _ hb)
    exact content_plain hcode hquote hslash hrest

/-- The escape of a control character, and what it is read as. -/
theorem codeEscape_eq {n : Nat} (h : n < 32) : ∃ x y,
    utf8 (codeEscape (Char.ofNat n)) = [92, 117, 48, 48, x, y] ∧ hexUnit 48 48 x y = some n := by
  have hall : ∀ n < 32,
      utf8 (codeEscape (Char.ofNat n)) = [92, 117, 48, 48, UInt8.ofNat (48 + n / 16),
        UInt8.ofNat (n % 16).digitChar.toNat] ∧
      hexUnit 48 48 (UInt8.ofNat (48 + n / 16)) (UInt8.ofNat (n % 16).digitChar.toNat) = some n := by
    decide +kernel
  exact ⟨_, _, hall n h⟩

theorem content_encodeChar (c : Char) {r more : List UInt8} {m : Nat} (h : content r = .ok (more, m)) :
    content (utf8 (encodeChar c) ++ r) =
      .ok (String.utf8EncodeChar c ++ more, m + (utf8 (encodeChar c)).length) := by
  have hshort {e text : UInt8} (he : ∀ r, escape (e :: r) = .ok ([text], 1)) :
      content (92 :: e :: r) = .ok (text :: more, m + 2) :=
    content_escape (e := [e]) (he r) h
  unfold encodeChar
  split_ifs with h1 h2 h3 h4 h5 h6 h7 h8
  · subst h1
    exact hshort fun _ => rfl
  · subst h2
    exact hshort fun _ => rfl
  · subst h3
    exact hshort fun _ => rfl
  · subst h4
    exact hshort fun _ => rfl
  · subst h5
    exact hshort fun _ => rfl
  · subst h6
    exact hshort fun _ => rfl
  · subst h7
    exact hshort fun _ => rfl
  · obtain ⟨x, y, hbytes, hunit⟩ := codeEscape_eq h8
    rw [Char.ofNat_toNat] at hbytes
    have hescape : escape (117 :: 48 :: 48 :: x :: y :: r) =
        .ok (String.utf8EncodeChar c, 5) := by
      have hhigh : isHigh c.toNat = false := by
        rw [isHigh, decide_eq_false (by omega), Bool.false_and]
      have hlow : isLow c.toNat = false := by
        rw [isLow, decide_eq_false (by omega), Bool.false_and]
      simp [escape, unicodeEscape, hunit, hhigh, hlow, Char.ofNat_toNat]
    rw [hbytes]
    exact content_escape (e := [117, 48, 48, x, y]) hescape h
  · have hself : utf8 [c] = String.utf8EncodeChar c := List.append_nil _
    rw [hself]
    refine content_append (fun b hb => ?_) h
    have hquote : c.toNat ≠ 34 := fun hc => h1 (Char.toNat_inj.mp hc)
    have hslash : c.toNat ≠ 92 := fun hc => h2 (Char.toNat_inj.mp hc)
    have hmem := (sequence_encode c).mem hb
    omega

/-- What is written between the quotes of a string is read up to them. -/
theorem content_flatMap (cs : List Char) (rest : List UInt8) :
    content (utf8 (cs.flatMap encodeChar) ++ 34 :: rest) =
      .ok (utf8 cs, (utf8 (cs.flatMap encodeChar)).length) := by
  induction cs with
  | nil =>
    rw [List.flatMap_nil, utf8_nil, List.nil_append, content]
    rfl
  | cons c cs ih =>
    rw [List.flatMap_cons, utf8_append, List.append_assoc, content_encodeChar c ih, utf8_cons,
      List.length_append, Nat.add_comm]

/-! ### Decoders and what they read -/

/-- A decoder reads a value off the front of some bytes and leaves the rest, wherever they stand. -/
def Reads {α : Type} (d : Decode α) (bs : List UInt8) (a : α) (rest : List UInt8) : Prop :=
  ∀ place, ∃ place', d.run.run ⟨place, bs⟩ = (.ok a, ⟨place', rest⟩)

namespace Reads

variable {α β : Type} {d : Decode α} {a : α} {b : β} {bs mid rest : List UInt8}

theorem pure (a : α) (bs : List UInt8) : Reads (pure a) bs a bs := fun place => ⟨place, rfl⟩

theorem bind {f : α → Decode β} (h : Reads d bs a mid) (hf : Reads (f a) mid b rest) :
    Reads (d >>= f) bs b rest := by
  intro place
  obtain ⟨place₁, h₁⟩ := h place
  obtain ⟨place₂, h₂⟩ := hf place₁
  refine ⟨place₂, ?_⟩
  rw [ExceptT.run_bind, StateT.run_bind, h₁]
  exact h₂

/-- A handler of faults has nothing to do with what is read. -/
theorem tryCatch {handler : Fault → Decode α} (h : Reads d bs a rest) :
    Reads (tryCatch d handler) bs a rest := by
  intro place
  obtain ⟨place', h'⟩ := h place
  refine ⟨place', ?_⟩
  rw [ExceptT.run_tryCatch, StateT.run_bind, h']
  rfl

theorem settled (h : Reads d bs a rest) : Reads (settled d) bs a rest := h.tryCatch

theorem inside (s : Segment) (h : Reads d bs a rest) : Reads (inside s d) bs a rest := h.tryCatch

theorem enclosed {close : Decode Unit} (h : Reads d bs a mid) (hc : Reads close mid () rest) :
    Reads (enclosed d close) bs a rest := h.tryCatch.bind (hc.bind (.pure a rest))

theorem peek (bs : List UInt8) : Reads peek bs bs.head? bs := fun place => ⟨place, rfl⟩

/-- What a decoder does may depend on the bytes ahead. -/
theorem get {f : Cursor → Decode β} (h : ∀ place, Reads (f ⟨place, bs⟩) bs b rest) :
    Reads (get >>= f) bs b rest := fun place => h place place

/-- One step of the cursor, or more of them. -/
theorem modify {f : Cursor → Cursor} (h : ∀ place, ∃ place', f ⟨place, bs⟩ = ⟨place', rest⟩) :
    Reads (modify f) bs () rest := by
  intro place
  obtain ⟨place', h'⟩ := h place
  exact ⟨place', congrArg (Prod.mk (Except.ok ())) h'⟩

end Reads

namespace Cursor

theorem next_cons (place : Place) (b : UInt8) (bs : List UInt8) :
    ∃ place', next ⟨place, b :: bs⟩ = ⟨place', bs⟩ := by
  unfold next
  dsimp only
  split
  · rename_i h
    cases h
  · rename_i h
    cases h
    exact ⟨_, rfl⟩
  · rename_i h
    cases h
    exact ⟨_, rfl⟩

theorem skip_append (bs rest : List UInt8) (place : Place) :
    ∃ place', skip bs.length ⟨place, bs ++ rest⟩ = ⟨place', rest⟩ := by
  induction bs generalizing place with
  | nil => exact ⟨place, rfl⟩
  | cons b bs ih =>
    obtain ⟨place₁, h₁⟩ := next_cons place b (bs ++ rest)
    obtain ⟨place₂, h₂⟩ := ih place₁
    exact ⟨place₂, by rw [List.length_cons, skip, List.cons_append, h₁, h₂]⟩

end Cursor

namespace Reads

variable {α β : Type} {d : Decode α} {a : α} {b : β} {bs mid rest : List UInt8}

theorem advance (x : UInt8) (bs : List UInt8) : Reads advance (x :: bs) () bs :=
  modify fun place => Cursor.next_cons place x bs

/-- Where no blank comes next, the next byte is looked at in its place. -/
theorem peekToken (h : ∀ x, bs.head? = some x → Cursor.isSpace x = false) :
    Reads peekToken bs bs.head? bs := by
  refine (modify fun place => ⟨place, ?_⟩).bind (peek bs)
  have hnone : bs.takeWhile Cursor.isSpace = [] := by
    cases bs with
    | nil => rfl
    | cons x bs => rw [List.takeWhile_cons, h x rfl, if_neg (by decide)]
  unfold Cursor.skipWhile
  rw [hnone]
  rfl

theorem peekToken_cons {x : UInt8} (h : Cursor.isSpace x = false) (bs : List UInt8) :
    Reads Json.peekToken (x :: bs) (some x) (x :: bs) :=
  peekToken fun _ hx => Option.some.inj hx ▸ h

theorem peekValue {x : UInt8} (h : Cursor.isSpace x = false) (bs : List UInt8) :
    Reads peekValue (x :: bs) x (x :: bs) := (peekToken_cons h bs).bind (.pure x _)

theorem word (ws rest : List UInt8) : Reads (word ws) (ws ++ rest) () rest := by
  induction ws with
  | nil => exact .pure () rest
  | cons w ws ih =>
    refine (peek _).bind ?_
    refine (advance w _).bind ?_
    rw [if_pos rfl]
    exact ih

/-! ### Strings and truth values -/

theorem stringBody (s : String) (rest : List UInt8) :
    Reads stringBody (utf8 (s.toList.flatMap encodeChar) ++ 34 :: rest) s rest := by
  have hbytes : ofUtf8? (utf8 s.toList) = some s.toList := ofUtf8?_eq_some_iff.mpr rfl
  unfold Json.stringBody
  refine get fun _ => ?_
  dsimp only
  rw [content_flatMap]
  refine (modify fun place => Cursor.skip_append _ _ place).bind ?_
  rw [hbytes]
  refine (advance 34 rest).bind ?_
  rw [String.ofList_toList]
  exact .pure s rest

theorem encodeString_bytes (s : String) (rest : List UInt8) : utf8 (encodeString s) ++ rest =
    34 :: (utf8 (s.toList.flatMap encodeChar) ++ 34 :: rest) := by
  have hquote : utf8 ['"'] = [34] := rfl
  rw [encodeString, List.cons_append, utf8_cons, utf8_append, hquote, List.append_assoc,
    List.append_assoc]
  rfl

theorem stringOf (expected s : String) (rest : List UInt8) :
    Reads (stringOf expected) (utf8 (encodeString s) ++ rest) s rest := by
  rw [encodeString_bytes]
  exact (peekValue (by decide) _).bind ((advance _ _).bind (stringBody s rest))

theorem string (s : String) (rest : List UInt8) :
    Reads string (utf8 (encodeString s) ++ rest) s rest := stringOf _ s rest

theorem boolean (b : Bool) (rest : List UInt8) :
    Reads boolean (utf8 (encodeBool b) ++ rest) b rest := by
  cases b with
  | true =>
    exact (peekValue (by decide) _).bind
      ((advance _ _).bind ((word [114, 117, 101] rest).bind (.pure true rest)))
  | false =>
    exact (peekValue (by decide) _).bind
      ((advance _ _).bind ((word [97, 108, 115, 101] rest).bind (.pure false rest)))

/-- A name is read as the one of its value. -/
theorem oneOf {ofName? : String → Option α} {s : String} (h : ofName? s = some a)
    (known : List String) (rest : List UInt8) :
    Reads (oneOf ofName? known) (utf8 (encodeString s) ++ rest) a rest := by
  have hname := stringOf "variant identifier" s rest
  rw [encodeString_bytes] at hname ⊢
  refine (peekToken_cons (by decide) _).bind (settled (hname.bind ?_))
  rw [h]
  exact .pure a rest

/-! ### Values behind commas -/

end Reads

theorem commaSeparated_cons (v : List Char) (vs : List (List Char)) :
    commaSeparated (v :: vs) = v ++ vs.flatMap (',' :: ·) := by
  induction vs generalizing v with
  | nil => simp [commaSeparated]
  | cons w vs ih => rw [commaSeparated, ih, List.flatMap_cons, List.cons_append]

/-- Values as they go on: a comma stands before each of them but the first of all. -/
def continued (first : Bool) (vs : List (List Char)) : List Char :=
  if first then commaSeparated vs else vs.flatMap (',' :: ·)

theorem continued_cons (first : Bool) (v : List Char) (vs : List (List Char)) :
    continued first (v :: vs) = (if first then [] else [',']) ++ v ++ continued false vs := by
  cases first with
  | true => exact commaSeparated_cons v vs
  | false => rfl

theorem continued_nil (first : Bool) : continued first [] = [] := by cases first <;> rfl

theorem length_continued {vs : List (List Char)} (h : [] ∉ vs) (first : Bool) :
    vs.length ≤ (utf8 (continued first vs)).length := by
  induction vs generalizing first with
  | nil => exact Nat.zero_le _
  | cons v vs ih =>
    simp only [List.mem_cons, not_or] at h
    obtain ⟨c, cs, rfl⟩ := List.exists_cons_of_ne_nil (Ne.symm h.1)
    have hchar : 0 < (String.utf8EncodeChar c).length :=
      List.length_pos_iff.mpr String.utf8EncodeChar_ne_nil
    have hrest := ih h.2 false
    simp only [continued_cons, utf8_append, utf8_cons, List.length_append, List.length_cons]
    omega

/-- The encoder of the elements of a list is undone by their decoder, and starts them with a byte that
can start a value. -/
structure Undoes {α : Type} (d : Decode α) (encode : α → List Char) : Prop where
  reads : ∀ a rest, Reads d (utf8 (encode a) ++ rest) a rest
  starts : ∀ a, ∃ x bs, utf8 (encode a) = x :: bs ∧ Cursor.isSpace x = false ∧ x ≠ 93

theorem Undoes.ne_nil {α : Type} {d : Decode α} {encode : α → List Char} (h : Undoes d encode)
    (a : α) : encode a ≠ [] := by
  intro hnil
  obtain ⟨x, bs, hx, -⟩ := h.starts a
  rw [hnil] at hx
  cases hx

namespace Reads

variable {α : Type} {d : Decode α}

theorem moreElements {x : UInt8} (hspace : Cursor.isSpace x = false) (hclose : x ≠ 93) (first : Bool)
    (bs : List UInt8) :
    Reads (moreElements first) (utf8 (if first then [] else [',']) ++ x :: bs) true (x :: bs) := by
  cases first with
  | true =>
    refine (peekToken_cons hspace bs).bind ?_
    split
    · rename_i h
      cases h
    · rename_i h
      cases h
      exact absurd rfl hclose
    · exact .pure true _
  | false =>
    refine (peekToken_cons (x := 44) (by decide) (x :: bs)).bind ?_
    refine (advance 44 (x :: bs)).bind ((peekToken_cons hspace bs).bind ?_)
    split
    · rename_i h
      cases h
      exact absurd rfl hclose
    · exact .pure true _
    · rename_i h
      cases h

theorem moreElements_end (first : Bool) (rest : List UInt8) :
    Reads (Json.moreElements first) (93 :: rest) false (93 :: rest) :=
  (peekToken_cons (by decide) rest).bind (.pure false _)

theorem moreKeys (first : Bool) (bs : List UInt8) :
    Reads (moreKeys first) (utf8 (if first then [] else [',']) ++ 34 :: bs) true (34 :: bs) := by
  cases first with
  | true => exact (peekToken_cons (by decide) bs).bind (.pure true _)
  | false =>
    exact (peekToken_cons (x := 44) (by decide) (34 :: bs)).bind
      ((advance 44 (34 :: bs)).bind ((peekToken_cons (by decide) bs).bind (.pure true _)))

theorem moreKeys_end (first : Bool) (rest : List UInt8) :
    Reads (Json.moreKeys first) (125 :: rest) false (125 :: rest) :=
  (peekToken_cons (by decide) rest).bind (.pure false _)

/-! ### Lists -/

theorem elements {encode : α → List Char} (h : Undoes d encode) (as : List α) {fuel : Nat}
    (hfuel : as.length < fuel) (i : Nat) (rest : List UInt8) :
    Reads (elements d fuel i) (utf8 (continued (i == 0) (as.map encode)) ++ 93 :: rest) as
      (93 :: rest) := by
  induction as generalizing fuel i with
  | nil =>
    obtain ⟨fuel, rfl⟩ := Nat.exists_eq_add_one_of_ne_zero (Nat.ne_zero_of_lt hfuel)
    rw [List.map_nil, continued_nil]
    exact (moreElements_end _ rest).bind (.pure [] _)
  | cons a as ih =>
    obtain ⟨fuel, rfl⟩ := Nat.exists_eq_add_one_of_ne_zero (Nat.ne_zero_of_lt hfuel)
    obtain ⟨x, bs, hx, hspace, hclose⟩ := h.starts a
    have hfirst := moreElements hspace hclose (i == 0)
      (bs ++ (utf8 (continued false (as.map encode)) ++ 93 :: rest))
    rw [← List.cons_append, ← hx] at hfirst
    rw [List.map_cons, continued_cons, utf8_append, utf8_append, List.append_assoc,
      List.append_assoc]
    refine hfirst.bind ((h.reads a _).inside (.element i) |>.bind ?_)
    exact (ih (Nat.lt_of_succ_lt_succ hfuel) (i + 1)).bind (.pure _ _)

theorem list {encode : α → List Char} (h : Undoes d encode) (as : List α) (rest : List UInt8) :
    Reads (list d) (utf8 (encodeList (as.map encode)) ++ rest) as rest := by
  have hbytes : utf8 (encodeList (as.map encode)) ++ rest =
      91 :: (utf8 (continued true (as.map encode)) ++ 93 :: rest) := by
    rw [encodeList, List.cons_append, utf8_cons, utf8_append, List.append_assoc, List.append_assoc]
    rfl
  have hnonempty : [] ∉ as.map encode := by
    rw [List.mem_map]
    rintro ⟨a, -, ha⟩
    exact h.ne_nil a ha
  have hlength := length_continued hnonempty true
  rw [List.length_map] at hlength
  rw [hbytes]
  refine (peekValue (by decide) _).bind (settled ((advance _ _).bind (get fun _ => ?_)))
  refine enclosed (elements h as ?_ 0 rest) ((peekToken_cons (by decide) rest).bind (advance 93 rest))
  rw [List.length_append]
  omega

end Reads

/-! ### Records -/

variable {σ α : Type}

/-- A way through the members of an object: each belongs to a field that is not there yet, and its text
is read by the field. -/
inductive Fills (r : Record σ α) : σ → List (String × List Char) → σ → Prop
  | nil (s : σ) : Fills r s [] s
  | cons {s s' t : σ} {f : Field σ} {key : String} {text : List Char} {ms : List (String × List Char)}
      (field : r.fields.find? (·.name == key) = some f) (absent : f.present s = false)
      (reads : ∀ rest, Reads (f.read s) (utf8 text ++ rest) s' rest) (more : Fills r s' ms t) :
      Fills r s ((key, text) :: ms) t

/-- A member of an object as it is written. -/
def memberText (m : String × List Char) : List Char := encodeString m.1 ++ ':' :: m.2

theorem reads_members {r : Record σ α} {s t : σ} {ms : List (String × List Char)} {a : α}
    (h : Fills r s ms t) (hfinish : r.finish t = .ok a) {fuel : Nat} (hfuel : ms.length < fuel)
    (first : Bool) (rest : List UInt8) :
    Reads (r.members fuel first s) (utf8 (continued first (ms.map memberText)) ++ 125 :: rest) a
      (125 :: rest) := by
  induction h generalizing fuel first with
  | nil s =>
    obtain ⟨fuel, rfl⟩ := Nat.exists_eq_add_one_of_ne_zero (Nat.ne_zero_of_lt hfuel)
    rw [List.map_nil, continued_nil]
    refine (Reads.moreKeys_end first rest).bind ?_
    change Reads (r.complete s) _ a _
    unfold Record.complete
    rw [hfinish]
    exact .pure a _
  | @cons s s' t f key text ms field absent reads more ih =>
    obtain ⟨fuel, rfl⟩ := Nat.exists_eq_add_one_of_ne_zero (Nat.ne_zero_of_lt hfuel)
    have hbytes : utf8 (continued first (List.map memberText ((key, text) :: ms))) ++ 125 :: rest =
        utf8 (if first then [] else [',']) ++ 34 :: (utf8 (key.toList.flatMap encodeChar) ++
          34 :: 58 :: (utf8 text ++ (utf8 (continued false (ms.map memberText)) ++ 125 :: rest))) := by
      rw [List.map_cons, continued_cons, memberText, utf8_append, utf8_append, utf8_append,
        List.append_assoc, List.append_assoc, List.append_assoc, Reads.encodeString_bytes, utf8_cons,
        List.append_assoc]
      rfl
    rw [hbytes]
    refine (Reads.moreKeys first _).bind ((Reads.advance 34 _).bind ((Reads.stringBody key _).bind ?_))
    rw [field]
    dsimp only
    rw [absent]
    have hcolon (bs : List UInt8) : Reads colon (58 :: bs) () bs :=
      (Reads.peekToken_cons (by decide) bs).bind (Reads.advance 58 bs)
    refine (hcolon _).bind ?_
    exact ((reads _).inside (.field key)).bind (ih hfinish (Nat.lt_of_succ_lt_succ hfuel) false)

/-- A record is read from the object of its members. -/
theorem reads_record {r : Record σ α} {t : σ} {ms : List (String × List Char)} {a : α}
    (h : Fills r r.blank ms t) (hfinish : r.finish t = .ok a) (rest : List UInt8) :
    Reads r.decode (utf8 (encodeObject ms) ++ rest) a rest := by
  have hbytes : utf8 (encodeObject ms) ++ rest =
      123 :: (utf8 (continued true (ms.map memberText)) ++ 125 :: rest) := by
    rw [encodeObject, List.cons_append, utf8_cons, utf8_append, List.append_assoc, List.append_assoc]
    rfl
  have hnonempty : [] ∉ ms.map memberText := by
    rw [List.mem_map]
    rintro ⟨m, -, hm⟩
    cases hm
  have hlength := length_continued hnonempty true
  rw [List.length_map] at hlength
  rw [hbytes]
  refine (Reads.peekValue (by decide) _).bind
    (Reads.settled ((Reads.advance _ _).bind (Reads.get fun _ => ?_)))
  refine Reads.enclosed (reads_members h hfinish ?_ true rest)
    ((Reads.peekToken_cons (by decide) rest).bind (Reads.advance 125 rest))
  rw [List.length_append]
  omega

/-- A text that is one value denotes that value. -/
theorem decode_of_reads {d : Decode α} {bs : List UInt8} {a : α} (h : Reads d bs a []) :
    decode d bs = .ok a := by
  have hend : Reads peekToken [] none [] := Reads.peekToken fun _ hx => by cases hx
  have hwhole {f : α → Decode α} (hf : Reads (f a) [] a []) :
      ((d >>= f).run.run (.start bs)).1 = .ok a := by
    obtain ⟨place, hrun⟩ := (h.bind hf) ⟨1, 0⟩
    exact congrArg Prod.fst hrun
  unfold decode
  exact hwhole (hend.bind (.pure a []))

end Json

open Json Text

/-! ### Messages -/

theorem Kind.ofName?_eq_some_iff {s : String} {k : Kind} : ofName? s = some k ↔ s = k.name := by
  constructor
  · intro h
    have hname := List.find?_some h
    exact (eq_of_beq hname).symm
  · rintro rfl
    cases k <;> decide

theorem Kind.reads (k : Kind) (rest : List UInt8) : Reads decode (utf8 k.encode ++ rest) k rest :=
  Reads.oneOf (Kind.ofName?_eq_some_iff.mpr rfl) _ rest

theorem AddressUpdate.decode_encode (u : AddressUpdate) :
    Json.decode decode (utf8 u.encode) = .ok u := by
  have hfill : Fills record record.blank [("address", encodeString u.address)] (some u.address) :=
    .cons rfl rfl (fun rest => (Reads.string u.address rest).bind (.pure _ rest)) (.nil _)
  have hreads : Reads decode (utf8 u.encode ++ []) u [] := reads_record hfill rfl []
  rw [List.append_nil] at hreads
  exact decode_of_reads hreads

theorem EndpointInfo.undoes : Undoes decode encode where
  reads e rest := by
    have hfill : Fills record record.blank [("kind", e.kind.encode),
        ("address", encodeString e.address), ("inherited", encodeBool e.inherited)]
        ⟨some e.kind, some e.address, some e.inherited⟩ := by
      refine .cons rfl rfl (fun rest => (e.kind.reads rest).bind (.pure _ rest)) ?_
      refine .cons rfl rfl (fun rest => (Reads.string e.address rest).bind (.pure _ rest)) ?_
      exact .cons rfl rfl (fun rest => (Reads.boolean e.inherited rest).bind (.pure _ rest)) (.nil _)
    exact reads_record hfill rfl rest
  starts e := ⟨123, _, rfl, by decide, by decide⟩

theorem EndpointInfo.decode_encodeList (es : List EndpointInfo) :
    Json.decode (list decode) (utf8 (encodeList (es.map encode))) = .ok es := by
  have hreads := Reads.list undoes es []
  rw [List.append_nil] at hreads
  exact decode_of_reads hreads

end Portkeeper
