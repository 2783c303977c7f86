import CallTree.Token.Display
import Mathlib.Data.List.TakeWhile

/-!
# The text of nested lists

A list-like token is shown in brackets, with a comma and a space between its parts.
Nothing is escaped, and still the text says how the lists are nested and what stands
at every place, if the leaves are not shown as the empty text and have no bracket and
no comma in theirs.  A leaf then ends before the first of these characters.  A list
ends with the bracket that closes it, and an empty list is told from one with a part
by what follows its opening bracket.

The induction is over one of two tokens and follows the text from the left.  It needs
a text that goes on after the token, and says that what goes on is the same, too.

* `outline` — how a token is nested, with the texts of the leaves in their places;
* `PlainLeaves` — a token whose leaves have texts as above;
* `cancel_display` — the text of a token can be cancelled from a longer text;
* `outline_eq_of_display_eq` — tokens of one text have one outline.
-/

namespace CallTree

namespace Token

/-! ## How a token is nested -/

/-- Lists in lists, and texts at the leaves. -/
inductive Outline where
  | leaf (text : String)
  | list (items : List Outline)

mutual

/-- How a token is nested, and the texts of its leaves in their places.  The kinds of
its lists do not count. -/
def outline : Token → Outline
  | .fixedArray items => .list (outlineAll items)
  | .array items => .list (outlineAll items)
  | .tuple items => .list (outlineAll items)
  | token => .leaf (display token)

/-- How several tokens are nested. -/
def outlineAll : List Token → List Outline
  | [] => []
  | item :: items => outline item :: outlineAll items

end

theorem outlineAll_eq_map (items : List Token) : outlineAll items = items.map outline := by
  induction items with
  | nil => rfl
  | cons item items ih => rw [outlineAll, ih, List.map_cons]

/-- The characters that mark the structure of a list. -/
def delimiters : List Char := ['[', ']', ',']

/-- A text that cannot be taken for a part of the structure. -/
structure PlainText (text : String) : Prop where
  ne_empty : text ≠ ""
  clear : ∀ c ∈ text.toList, c ∉ delimiters

/-- A token that is built of list-like tokens over leaves with plain texts. -/
inductive PlainLeaves : Token → Prop
  | leaf {token : Token} (single : token.items? = none) (plain : PlainText (display token)) :
      PlainLeaves token
  | list {token : Token} {items : List Token} (parts : token.items? = some items)
      (h : ∀ item ∈ items, PlainLeaves item) : PlainLeaves token

section Shown

variable {token : Token} {items : List Token}

theorem outline_of_leaf (h : token.items? = none) : outline token = .leaf (display token) := by
  cases token with
  | fixedArray items | array items | tuple items => cases h
  | _ => simp only [outline]

theorem outline_of_list (h : token.items? = some items) :
    outline token = .list (items.map outline) := by
  rw [← outlineAll_eq_map]
  cases token with
  | fixedArray parts | array parts | tuple parts =>
      obtain rfl : parts = items := Option.some.inj h
      simp only [outline]
  | _ => cases h

/-- The text of the parts of a list after the first one. -/
def laterParts (items : List Token) : List Char :=
  items.flatMap fun item => ',' :: ' ' :: (display item).toList

/-- The text of the parts of a list. -/
def shownParts : List Token → List Char
  | [] => []
  | item :: items => (display item).toList ++ laterParts items

theorem toList_intercalate_display (items : List Token) :
    (", ".intercalate (items.map display)).toList = shownParts items := by
  cases items with
  | nil => rfl
  | cons item items =>
      induction items generalizing item with
      | nil => simp [shownParts, laterParts]
      | cons next items ih =>
          rw [List.map_cons, String.intercalate_cons_of_ne_nil (by simp), String.toList_append,
            String.toList_append, ih, shownParts, shownParts, laterParts, laterParts,
            List.flatMap_cons, List.append_assoc]
          rfl

/-- A list is shown between brackets. -/
theorem toList_display_of_list (h : token.items? = some items) :
    (display token).toList = '[' :: (shownParts items ++ [']']) := by
  have hdisplay : display token = "[" ++ ", ".intercalate (items.map display) ++ "]" := by
    rw [← displayAll_eq_map]
    cases token with
    | fixedArray parts | array parts | tuple parts =>
        obtain rfl : parts = items := Option.some.inj h
        simp only [display]
    | _ => cases h
  rw [hdisplay, String.toList_append, String.toList_append, toList_intercalate_display]
  rfl

end Shown

/-! ## Cancelling what is shown -/

/-- Whether no leaf can go on with a text: nothing follows, or the structure does. -/
def EndsLeaf (rest : List Char) : Prop :=
  ∀ c ∈ rest.head?, c ∈ delimiters

/-- **The text of a leaf can be cancelled.** -/
theorem cancel_clear {s s' rest rest' : List Char} (hs : ∀ c ∈ s, c ∉ delimiters)
    (hs' : ∀ c ∈ s', c ∉ delimiters) (hrest : EndsLeaf rest) (hrest' : EndsLeaf rest')
    (h : s ++ rest = s' ++ rest') : s = s' ∧ rest = rest' := by
  have hfront {s rest : List Char} (hs : ∀ c ∈ s, c ∉ delimiters) (hrest : EndsLeaf rest) :
      (s ++ rest).takeWhile (· ∉ delimiters) = s := by
    have hnothing : rest.takeWhile (· ∉ delimiters) = [] := by
      cases rest with
      | nil => rfl
      | cons c rest =>
          have hc : c ∈ delimiters := hrest c rfl
          simp [hc]
    rw [List.takeWhile_append_of_pos (by simpa using hs), hnothing, List.append_nil]
  have hsame : s = s' := by rw [← hfront hs hrest, h, hfront hs' hrest']
  subst hsame
  exact ⟨rfl, List.append_cancel_left h⟩

theorem endsLeaf_laterParts (items : List Token) (rest : List Char) :
    EndsLeaf (laterParts items ++ ']' :: rest) := by
  intro c hc
  cases items with
  | nil =>
      obtain rfl : ']' = c := Option.some.inj hc
      decide
  | cons item items =>
      obtain rfl : ',' = c := Option.some.inj hc
      decide

/-- A leaf begins with a character of its own. -/
theorem PlainText.exists_cons {text : String} (h : PlainText text) :
    ∃ c rest, text.toList = c :: rest ∧ c ∉ delimiters := by
  cases htext : text.toList with
  | nil => exact absurd (String.toList_eq_nil_iff.mp htext) h.ne_empty
  | cons c rest => exact ⟨c, rest, rfl, h.clear c (by simp [htext])⟩

/-- No token begins with the bracket that closes a list. -/
theorem PlainLeaves.exists_cons {token : Token} (h : PlainLeaves token) :
    ∃ c rest, (display token).toList = c :: rest ∧ c ≠ ']' := by
  cases h with
  | leaf single plain =>
      obtain ⟨c, rest, htext, hclear⟩ := plain.exists_cons
      refine ⟨c, rest, htext, ?_⟩
      rintro rfl
      exact hclear (by decide)
  | list parts _ => exact ⟨'[', _, toList_display_of_list parts, by decide⟩

/-- No leaf begins as a list does. -/
theorem display_ne_of_leaf {leaf list : Token} {items : List Token} {rest rest' : List Char}
    (hplain : PlainText (display leaf)) (hparts : list.items? = some items) :
    (display leaf).toList ++ rest ≠ (display list).toList ++ rest' := by
  intro h
  obtain ⟨c, more, htext, hclear⟩ := hplain.exists_cons
  rw [htext, toList_display_of_list hparts] at h
  obtain rfl : c = '[' := (List.cons.inj h).1
  exact hclear (by decide)

/-- What is shown of a token tells its outline, and where it ends in a longer text. -/
def Cancels (token : Token) : Prop :=
  ∀ other rest rest', PlainLeaves other → EndsLeaf rest → EndsLeaf rest' →
    (display token).toList ++ rest = (display other).toList ++ rest' →
      outline token = outline other ∧ rest = rest'

/-- The parts of a list after the first one can be cancelled, up to the bracket. -/
theorem cancel_laterParts {items others : List Token} {rest rest' : List Char}
    (hitems : ∀ item ∈ items, Cancels item) (hothers : ∀ other ∈ others, PlainLeaves other)
    (h : laterParts items ++ ']' :: rest = laterParts others ++ ']' :: rest') :
    items.map outline = others.map outline ∧ rest = rest' := by
  induction items generalizing others with
  | nil =>
      cases others with
      | nil => exact ⟨rfl, (List.cons.inj h).2⟩
      | cons other others =>
          have hbracket : ']' = ',' := (List.cons.inj h).1
          exact absurd hbracket (by decide)
  | cons item items ih =>
      cases others with
      | nil =>
          have hbracket : ',' = ']' := (List.cons.inj h).1
          exact absurd hbracket (by decide)
      | cons other others =>
          obtain ⟨hitem, hitems⟩ := List.forall_mem_cons.mp hitems
          obtain ⟨hother, hothers⟩ := List.forall_mem_cons.mp hothers
          -- both texts begin with a comma and a space, then come the parts
          have hparts : (display item).toList ++ (laterParts items ++ ']' :: rest) =
              (display other).toList ++ (laterParts others ++ ']' :: rest') := by
            simpa [laterParts] using h
          obtain ⟨houtline, hlater⟩ := hitem other _ _ hother (endsLeaf_laterParts items rest)
            (endsLeaf_laterParts others rest') hparts
          obtain ⟨houtlines, hrest⟩ := ih hitems hothers hlater
          exact ⟨by rw [List.map_cons, List.map_cons, houtline, houtlines], hrest⟩

/-- The parts of a list can be cancelled, up to the bracket that closes it. -/
theorem cancel_shownParts {items others : List Token} {rest rest' : List Char}
    (hitems : ∀ item ∈ items, PlainLeaves item ∧ Cancels item)
    (hothers : ∀ other ∈ others, PlainLeaves other)
    (h : shownParts items ++ ']' :: rest = shownParts others ++ ']' :: rest') :
    items.map outline = others.map outline ∧ rest = rest' := by
  cases items with
  | nil =>
      cases others with
      | nil => exact ⟨rfl, (List.cons.inj h).2⟩
      | cons other others =>
          obtain ⟨c, more, htext, hc⟩ := (hothers other List.mem_cons_self).exists_cons
          rw [shownParts, shownParts, htext] at h
          exact absurd (List.cons.inj h).1.symm hc
  | cons item items =>
      obtain ⟨⟨hplain, hcancels⟩, hitems⟩ := List.forall_mem_cons.mp hitems
      cases others with
      | nil =>
          obtain ⟨c, more, htext, hc⟩ := hplain.exists_cons
          rw [shownParts, shownParts, htext] at h
          exact absurd (List.cons.inj h).1 hc
      | cons other others =>
          obtain ⟨hother, hothers⟩ := List.forall_mem_cons.mp hothers
          rw [shownParts, shownParts, List.append_assoc, List.append_assoc] at h
          obtain ⟨houtline, hlater⟩ := hcancels other _ _ hother (endsLeaf_laterParts items rest)
            (endsLeaf_laterParts others rest') h
          obtain ⟨houtlines, hrest⟩ :=
            cancel_laterParts (fun item hmem => (hitems item hmem).2) hothers hlater
          exact ⟨by rw [List.map_cons, List.map_cons, houtline, houtlines], hrest⟩

/-- **What is shown of a token can be cancelled from a longer text.** -/
theorem cancel_display {token : Token} (h : PlainLeaves token) : Cancels token := by
  induction h with
  | leaf single plain =>
      intro other rest rest' hother hrest hrest' htext
      cases hother with
      | leaf hsingle hplain =>
          obtain ⟨hsame, hrest⟩ := cancel_clear plain.clear hplain.clear hrest hrest' htext
          rw [outline_of_leaf single, outline_of_leaf hsingle, String.toList_inj.mp hsame]
          exact ⟨rfl, hrest⟩
      | list hparts _ => exact absurd htext (display_ne_of_leaf plain hparts)
  | list parts hitems ih =>
      intro other rest rest' hother hrest hrest' htext
      cases hother with
      | leaf hsingle hplain => exact absurd htext.symm (display_ne_of_leaf hplain parts)
      | list hparts hothers =>
          rw [toList_display_of_list parts, toList_display_of_list hparts] at htext
          simp only [List.cons_append, List.append_assoc, List.nil_append, List.cons.injEq,
            true_and] at htext
          obtain ⟨houtlines, hrest⟩ :=
            cancel_shownParts (fun item hmem => ⟨hitems item hmem, ih item hmem⟩) hothers htext
          rw [outline_of_list parts, outline_of_list hparts, houtlines]
          exact ⟨rfl, hrest⟩

/-- **Nested lists are shown unambiguously**: two tokens of one text are nested alike,
with the same texts of leaves in the same places, if no leaf is shown as the empty text
or with a bracket or a comma. -/
theorem outline_eq_of_display_eq {token other : Token} (htoken : PlainLeaves token)
    (hother : PlainLeaves other) (h : display token = display other) :
    outline token = outline other := by
  have hend : EndsLeaf [] := fun c hc => absurd hc (by simp)
  have htext : (display token).toList ++ [] = (display other).toList ++ [] := by rw [h]
  exact (cancel_display htoken other [] [] hother hend hend htext).1

/-- Lists of other kinds, an empty one among them, over leaves of other types. -/
theorem outline_eq_of_display_eq_sample :
    display (.array [.tuple [], .fixedArray [.bool true]]) = "[[], [true]]" ∧
      outline (.array [.tuple [], .fixedArray [.bool true]]) =
        outline (.fixedArray [.array [], .tuple [.address "true"]]) := by
  have hempty {token : Token} (hparts : token.items? = some []) : PlainLeaves token :=
    .list hparts fun _ hmem => absurd hmem List.not_mem_nil
  have hsingle {token leaf : Token} (hparts : token.items? = some [leaf])
      (hleaf : leaf.items? = none) (htext : display leaf = "true") : PlainLeaves token := by
    refine .list hparts fun item hmem => ?_
    obtain rfl : item = leaf := List.mem_singleton.mp hmem
    have hplain : PlainText "true" := ⟨by decide, by simp [delimiters]⟩
    exact .leaf hleaf (htext ▸ hplain)
  have hpair {first second token : Token} (hparts : token.items? = some [first, second])
      (hfirst : PlainLeaves first) (hsecond : PlainLeaves second) : PlainLeaves token :=
    .list hparts (List.forall_mem_cons.mpr ⟨hfirst, List.forall_mem_singleton.mpr hsecond⟩)
  have htext : display (.array [.tuple [], .fixedArray [.bool true]]) = "[[], [true]]" := by decide
  have hother : display (.fixedArray [.array [], .tuple [.address "true"]]) = "[[], [true]]" := by
    decide
  exact ⟨htext, outline_eq_of_display_eq (hpair rfl (hempty rfl) (hsingle rfl rfl rfl))
    (hpair rfl (hempty rfl) (hsingle rfl rfl rfl)) (htext.trans hother.symm)⟩

end Token

end CallTree
