import AgentIntake.Json.Skip
import AgentIntake.Proofs.Json.Layout

/-!
# What is passed over is a value

The reader of values that nobody asked for goes through a text step by step and keeps what is open
around the present place in a list.  Which texts it takes can be said without the list: a value is a
scalar, or an array or an object with entries that are values (`Formed`).  It takes exactly the
values, up to where they end (`skipValue_eq_ok_iff`), so there is no limit to their depth.

One direction follows the grammar: a value is passed over whatever is open around it
(`run_of_formed`).  The other follows the steps, and there the list has to be given a meaning: for
each thing that is open, the rest of it stands in the text (`Closes`).
-/

namespace AgentIntake

namespace Json

/-! ## 1.  The grammar -/

/-- A part of a text: a value, or what is left of an array or an object, up to its closing byte,
which is all of it if the first entry is still to come. -/
inductive Part where
  | value
  | entries (first : Bool) (e : Enclosing)

/-- The byte that begins it. -/
def Enclosing.opening : Enclosing → UInt8
  | .list => Byte.openBracket
  | .object => Byte.openBrace

/-- The part stands at the front of the text, before the rest. -/
inductive Formed : Part → List UInt8 → List UInt8 → Prop where
  | scalar {b : UInt8} {s t r : List UInt8} (begins : skipBlank s = b :: t)
    (taken : skipScalar b t = .ok r) : Formed .value s r
  | enclosed {e : Enclosing} {s t r : List UInt8} (begins : skipBlank s = e.opening :: t)
    (inside : Formed (.entries true e) t r) : Formed .value s r
  | close {first : Bool} {e : Enclosing} {s r : List UInt8} (ends : skipBlank s = e.closing :: r) :
    Formed (.entries first e) s r
  | first {b : UInt8} {e : Enclosing} {s t u v r : List UInt8} (begins : skipBlank s = b :: t)
    (goesOn : b ≠ e.closing) (entry : e.beginEntry (b :: t) = .ok u) (value : Formed .value u v)
    (others : Formed (.entries false e) v r) : Formed (.entries true e) s r
  | further {e : Enclosing} {s t u v r : List UInt8} (comma : skipBlank s = Byte.comma :: t)
    (entry : e.beginEntry t = .ok u) (value : Formed .value u v)
    (others : Formed (.entries false e) v r) : Formed (.entries false e) s r

theorem Formed.of_skipBlank {s r : List UInt8} (h : Formed .value (skipBlank s) r) :
    Formed .value s r := by
  cases h with
  | scalar begins taken => exact .scalar (by rwa [skipBlank_skipBlank] at begins) taken
  | enclosed begins inside => exact .enclosed (by rwa [skipBlank_skipBlank] at begins) inside

/-! ## 2.  Passing over values -/

namespace Skipping

theorem run_of_next {place place' : Skipping} (unfinished : place.finished = false)
    (h : place.next = .ok place') : place.run = place'.run := by
  rw [run, dif_neg (by simp [unfinished])]
  split <;> rename_i hn <;> rw [h] at hn <;> cases hn
  rfl

theorem run_of_finished (s : List UInt8) : run ⟨.comma, [], s⟩ = .ok s := by
  rw [run, dif_pos (show finished ⟨.comma, [], s⟩ = true from rfl)]

end Skipping

/-- What is to come when the part is. -/
def Part.awaiting : Part → Awaiting
  | value => .value
  | entries true _ => .entry
  | entries false _ => .comma

/-- What is open when the part is to come, where `outer` is open around it. -/
def Part.enclosing (outer : List Enclosing) : Part → List Enclosing
  | value => outer
  | entries _ e => e :: outer

theorem ne_of_skipScalar {b : UInt8} {s r : List UInt8} (h : skipScalar b s = .ok r) :
    b ≠ Byte.openBracket ∧ b ≠ Byte.openBrace := by
  constructor <;> rintro rfl <;> cases h

/-- **A value is passed over whatever is open around it.** -/
theorem run_of_formed {part : Part} {s r : List UInt8} (h : Formed part s r)
    (outer : List Enclosing) :
    Skipping.run ⟨part.awaiting, part.enclosing outer, s⟩ = Skipping.run ⟨.comma, outer, r⟩ := by
  induction h generalizing outer with
  | @scalar b s t r begins taken =>
    obtain ⟨hlist, hobject⟩ := ne_of_skipScalar taken
    refine Skipping.run_of_next rfl ?_
    simp only [Part.awaiting, Part.enclosing, Skipping.next, begins, if_neg hlist, if_neg hobject,
      taken]
    rfl
  | @enclosed e s t r begins inside ih =>
    refine (Skipping.run_of_next rfl ?_).trans (ih outer)
    cases e <;> simp only [Part.awaiting, Skipping.next, begins] <;> rfl
  | @close first e s r ends =>
    refine Skipping.run_of_next (by cases first <;> rfl) ?_
    have hcomma : e.closing ≠ Byte.comma := by cases e <;> decide
    cases first <;>
      simp only [Part.awaiting, Part.enclosing, Skipping.next, ends, if_neg hcomma, if_pos]
  | @first b e s t u v r begins goesOn entry value others ihv iho =>
    refine (Skipping.run_of_next rfl ?_).trans
      ((ihv (e :: outer)).trans (iho outer))
    simp only [Part.awaiting, Part.enclosing, Skipping.next, begins, if_neg goesOn, Skipping.enter,
      entry]
    rfl
  | @further e s t u v r comma entry value others ihv iho =>
    refine (Skipping.run_of_next rfl ?_).trans
      ((ihv (e :: outer)).trans (iho outer))
    simp only [Part.awaiting, Part.enclosing, Skipping.next, comma, if_pos, Skipping.enter, entry]
    rfl

/-- What is open is closed in the text, one thing after the other. -/
def Closes : List Enclosing → List UInt8 → List UInt8 → Prop
  | [], s, r => s = r
  | e :: outer, s, r => ∃ t, Formed (.entries false e) s t ∧ Closes outer t r

/-- What is to come at the place stands in its text, and what is open is closed behind it. -/
def Skipping.Completes : Skipping → List UInt8 → Prop
  | ⟨.value, outer, s⟩, r => ∃ t, Formed .value s t ∧ Closes outer t r
  | ⟨.entry, [], s⟩, r => s = r
  | ⟨.entry, e :: outer, s⟩, r => ∃ t, Formed (.entries true e) s t ∧ Closes outer t r
  | ⟨.comma, enclosing, s⟩, r => Closes enclosing s r

theorem Skipping.completes_of_finished {place : Skipping} (h : place.finished = true) :
    place.Completes place.rest := by
  obtain ⟨awaiting, enclosing, s⟩ := place
  cases awaiting <;> cases enclosing <;> first | rfl | cases h

theorem Skipping.completes_of_next {place place' : Skipping} {r : List UInt8}
    (unfinished : place.finished = false) (h : place.next = .ok place') (hr : place'.Completes r) :
    place.Completes r := by
  obtain ⟨awaiting, enclosing, s⟩ := place
  cases awaiting with
  | value =>
    simp only [next] at h
    split at h
    · cases h
    · rename_i b t begins
      split at h
      · rename_i hb
        subst hb
        cases h
        obtain ⟨u, inside, hc⟩ := hr
        exact ⟨u, .enclosed (e := .list) begins inside, hc⟩
      · split at h
        · rename_i hb
          subst hb
          cases h
          obtain ⟨u, inside, hc⟩ := hr
          exact ⟨u, .enclosed (e := .object) begins inside, hc⟩
        · obtain ⟨u, taken, rfl⟩ := eq_ok_of_map h
          exact ⟨u, .scalar begins taken, hr⟩
  | entry =>
    cases enclosing with
    | nil => cases unfinished
    | cons e outer =>
      simp only [next] at h
      split at h
      · cases h
      · rename_i b t begins
        split at h
        · rename_i hb
          subst hb
          cases h
          exact ⟨t, .close begins, hr⟩
        · rename_i goesOn
          obtain ⟨u, entry, rfl⟩ := eq_ok_of_map h
          obtain ⟨v, value, w, others, hc⟩ := hr
          exact ⟨w, .first begins goesOn entry value others, hc⟩
  | comma =>
    cases enclosing with
    | nil => cases unfinished
    | cons e outer =>
      simp only [next] at h
      split at h
      · cases h
      · rename_i b t begins
        split at h
        · rename_i hb
          subst hb
          obtain ⟨u, entry, rfl⟩ := eq_ok_of_map h
          obtain ⟨v, value, w, others, hc⟩ := hr
          exact ⟨w, .further begins entry value others, hc⟩
        · split at h
          · rename_i hb
            subst hb
            cases h
            exact ⟨t, .close begins, hr⟩
          · cases h

theorem Skipping.completes_of_run {place : Skipping} {r : List UInt8} (h : place.run = .ok r) :
    place.Completes r := by
  fun_induction run place with
  | case1 place finished =>
    cases h
    exact completes_of_finished finished
  | case2 => cases h
  | case3 place unfinished place' hn ih =>
    exact completes_of_next (by simpa using unfinished) hn (ih h)

/-- **What is passed over is a value, and every value is passed over.** -/
theorem skipValue_eq_ok_iff {s r : List UInt8} : skipValue s = .ok r ↔ Formed .value s r := by
  constructor
  · intro h
    obtain ⟨t, hv, rfl⟩ := Skipping.completes_of_run h
    exact hv
  · intro h
    exact (run_of_formed h []).trans (Skipping.run_of_finished r)

theorem read_skip_eq_ok_iff {s r : List UInt8} : skip.read s = .ok ((), r) ↔ Formed .value s r := by
  rw [← skipValue_eq_ok_iff]
  constructor
  · intro h
    obtain ⟨t, ht, hr⟩ := eq_ok_of_map h
    cases hr
    exact ht
  · intro h
    show (skipValue s).map _ = _
    rw [h]
    rfl

/-- A value ends at one place. -/
theorem Formed.unique {s r r' : List UInt8} (h : Formed .value s r) (h' : Formed .value s r') :
    r = r' := by
  have := (skipValue_eq_ok_iff.2 h).symm.trans (skipValue_eq_ok_iff.2 h')
  exact Except.ok.inj this

end Json

end AgentIntake
