import CallTree.Address.Basic
import CallTree.Proofs.Address.Percent
import CallTree.Proofs.Text.Splitting

/-!
# The addresses of endpoints

The parts of a path that was read are settled: nothing is left to encode, no part
stands for a directory, and no part has a slash.  So the path stays as it is when
it is read again to put a slash at its end, and the path of an endpoint is the
path of the address, with one slash at its end, and the name of the endpoint.

* `Settled` — the parts of a path that was read;
* `settled_readPath` — reading a path gives settled parts;
* `readPieces_settled` — settled parts are read as they are;
* `exists_parts_of_parse` — the path of an address on the web has settled parts;
* `endpoint_pathText` — the path of an endpoint.
-/

namespace CallTree.Address

/-- Whether a part of a path is left as it is when the path is read. -/
structure Settled (part : List Char) : Prop where
  slash : '/' ∉ part
  safe : ∀ c ∈ part, isPathUnsafe c = false
  notSame : isSame part = false
  notAbove : isAbove part = false

/-- A path with a slash at its end: one is added where there is none. -/
def withSlash (path : String) : String :=
  if path.toList.getLast? = some '/' then path else path ++ "/"

/-! ## Reading a path -/

theorem settled_nil : Settled [] where
  slash := List.not_mem_nil
  safe := fun _ hmem => absurd hmem List.not_mem_nil
  notSame := by decide
  notAbove := by decide

/-- What may stand in a path breaks no line. -/
theorem unbroken_eq_self {s : List Char} (h : ∀ c ∈ s, isPathUnsafe c = false) :
    unbroken s = s := by
  refine List.filter_eq_self.mpr fun c hmem => ?_
  have hbreak : isBreak c = false := by
    rw [← Bool.not_eq_true]
    intro hbreak
    have hsafe := h c hmem
    simp only [isBreak, Bool.or_eq_true, beq_iff_eq] at hbreak
    rcases hbreak with (rfl | rfl) | rfl
    · exact absurd hsafe (by decide)
    · exact absurd hsafe (by decide)
    · exact absurd hsafe (by decide)
  rw [hbreak]
  rfl

/-- A piece that stands for no directory is settled when it is encoded. -/
theorem settled_percentEncode {piece : List Char} (hslash : '/' ∉ piece)
    (hsame : isSame (unbroken piece) = false) (habove : isAbove (unbroken piece) = false) :
    Settled (percentEncode isPathUnsafe (unbroken piece)) where
  slash := by
    intro hmem
    have hbefore := (safe_percentEncode hmem).2 rfl
    exact hslash (List.mem_of_mem_filter hbefore)
  safe := fun _ hmem => (safe_percentEncode hmem).1
  notSame := isSame_percentEncode hsame
  notAbove := isAbove_percentEncode habove

theorem mem_of_mem_shorten {done : List (List Char)} {part : List Char} (h : part ∈ shorten done) :
    part ∈ done := by
  cases done with
  | nil => exact h
  | cons first rest =>
      rw [shorten] at h
      split at h
      · exact h
      · exact List.mem_cons_of_mem _ h

/-- **What one piece more does**: it goes back, stays or adds a settled part.  The
last piece leaves an empty part where it adds none. -/
theorem done_add_cases {piece : List Char} (hslash : '/' ∉ piece) (isLast : Bool) (r : Reading) :
    (∃ done, (done = shorten r.done ∨ done = r.done) ∧
      (r.add false isLast piece).done = if isLast = true then [] :: done else done) ∨
    ∃ part, Settled part ∧ (r.add false isLast piece).done = part :: r.done := by
  unfold Reading.add
  by_cases habove : isAbove (unbroken piece) = true
  · rw [if_pos habove]
    exact Or.inl ⟨_, Or.inl rfl, rfl⟩
  · by_cases hsame : isSame (unbroken piece) = true
    · rw [if_neg habove, if_pos hsame]
      exact Or.inl ⟨_, Or.inr rfl, rfl⟩
    · rw [if_neg habove, if_neg hsame, Reading.addPart]
      have hpart := settled_percentEncode hslash (by simpa using hsame) (by simpa using habove)
      exact Or.inr ⟨_, hpart, rfl⟩

/-- **One piece more keeps the parts settled.** -/
theorem settled_add {piece : List Char} (hslash : '/' ∉ piece) (isLast : Bool) {r : Reading}
    (h : ∀ part ∈ r.done, Settled part) :
    ∀ part ∈ (r.add false isLast piece).done, Settled part := by
  rcases done_add_cases hslash isLast r with ⟨done, hdone, hadd⟩ | ⟨part, hpart, hadd⟩
  · have hsettled : ∀ part ∈ done, Settled part := by
      rcases hdone with rfl | rfl
      · exact fun part hmem => h part (mem_of_mem_shorten hmem)
      · exact h
    rw [hadd]
    split
    · exact List.forall_mem_cons.mpr ⟨settled_nil, hsettled⟩
    · exact hsettled
  · rw [hadd]
    exact List.forall_mem_cons.mpr ⟨hpart, h⟩

/-- The last piece leaves a part. -/
theorem done_add_ne_nil {piece : List Char} (hslash : '/' ∉ piece) (r : Reading) :
    (r.add false true piece).done ≠ [] := by
  rcases done_add_cases hslash true r with ⟨done, _, hadd⟩ | ⟨part, _, hadd⟩
  · rw [hadd, if_pos rfl]
    exact List.cons_ne_nil _ _
  · rw [hadd]
    exact List.cons_ne_nil _ _

/-- **Reading pieces without slashes gives settled parts**, and at least one. -/
theorem settled_addAll {pieces : List (List Char)} (hne : pieces ≠ [])
    (hslash : ∀ piece ∈ pieces, '/' ∉ piece) {r : Reading} (h : ∀ part ∈ r.done, Settled part) :
    (r.addAll false pieces).done ≠ [] ∧ ∀ part ∈ (r.addAll false pieces).done, Settled part := by
  induction pieces generalizing r with
  | nil => exact absurd rfl hne
  | cons piece rest ih =>
      obtain ⟨hpiece, hrest⟩ := List.forall_mem_cons.mp hslash
      rw [Reading.addAll]
      cases rest with
      | nil => exact ⟨done_add_ne_nil hpiece r, settled_add hpiece true h⟩
      | cons next rest => exact ih (List.cons_ne_nil _ _) hrest (settled_add hpiece false h)

/-- **The parts of a path that was read are settled**, and there is at least
one. -/
theorem settled_readPath (backslash : Bool) (s : List Char) :
    (readPath false backslash s).1 ≠ [] ∧
      ∀ part ∈ (readPath false backslash s).1, Settled part := by
  unfold readPath
  generalize (s.takeWhile _).map _ = text
  have hread := settled_addAll (Text.segments_ne_nil '/' text)
    (fun _ hmem => Text.notMem_of_mem_segments hmem) (r := Reading.start)
    (fun _ hmem => absurd hmem List.not_mem_nil)
  have hparts : (readPieces false (Text.segments '/' text)).1 =
      (Reading.start.addAll false (Text.segments '/' text)).done.reverse := rfl
  rw [hparts]
  exact ⟨fun hnil => hread.1 (List.reverse_eq_nil_iff.mp hnil),
    fun part hmem => hread.2 part (List.mem_reverse.mp hmem)⟩

/-! ## Reading it again -/

/-- A settled part is read as it is. -/
theorem add_settled {part : List Char} (h : Settled part) (isLast : Bool) (r : Reading) :
    (r.add false isLast part).done = part :: r.done := by
  have hunbroken := unbroken_eq_self h.safe
  rw [Reading.add, hunbroken, h.notAbove, h.notSame, Reading.addPart, hunbroken,
    percentEncode_eq_self h.safe]
  rfl

/-- **Settled parts are read as they are**, and so is an empty one behind them. -/
theorem readPieces_settled {parts : List (List Char)} (h : ∀ part ∈ parts, Settled part) :
    (readPieces false (parts ++ [[]])).1 = parts ++ [[]] := by
  have hdone (pieces : List (List Char)) (hpieces : ∀ part ∈ pieces, Settled part) (r : Reading) :
      (r.addAll false pieces).done = pieces.reverse ++ r.done := by
    induction pieces generalizing r with
    | nil => rfl
    | cons part rest ih =>
        obtain ⟨hpart, hrest⟩ := List.forall_mem_cons.mp hpieces
        rw [Reading.addAll, ih hrest, add_settled hpart, List.reverse_cons, List.append_assoc]
        rfl
  have hall : ∀ part ∈ parts ++ [[]], Settled part := by
    intro part hmem
    rcases List.mem_append.mp hmem with hold | hnew
    · exact h part hold
    · rw [List.mem_singleton.mp hnew]
      exact settled_nil
  have hread := hdone (parts ++ [[]]) hall Reading.start
  have hparts : (readPieces false (parts ++ [[]])).1 =
      (Reading.start.addAll false (parts ++ [[]])).done.reverse := rfl
  rw [hparts, hread]
  simp [Reading.start]

/-! ## Addresses on the web -/

/-- The schemes of the web. -/
theorem scheme_of_isWeb {a : Address} (h : a.isWeb = true) :
    a.scheme = "http".toList ∨ a.scheme = "https".toList := by
  rw [isWeb, Bool.or_eq_true, decide_eq_true_eq, decide_eq_true_eq] at h
  exact h

/-- The addresses of the web have a host. -/
theorem hasHost_of_isWeb {a : Address} (h : a.isWeb = true) : hasHost a.scheme = true := by
  rcases scheme_of_isWeb h with hscheme | hscheme
  · rw [hscheme]
    decide
  · rw [hscheme]
    decide

/-- An address with a host has its scheme, and a path of settled parts. -/
theorem exists_parts_of_withHost {scheme s : List Char} {a : Address}
    (h : withHost scheme s = .ok a) :
    a.scheme = scheme ∧
      ∃ parts, a.path = .parts parts ∧
        (hasHost scheme = true → parts ≠ [] ∧ ∀ part ∈ parts, Settled part) := by
  unfold withHost at h
  cases hread : readAuthority scheme s with
  | error e =>
      rw [hread] at h
      cases h
  | ok found =>
      obtain ⟨authority, rest⟩ := found
      rw [hread] at h
      cases h
      exact ⟨rfl, _, rfl, fun _ => settled_readPath _ _⟩

/-- The address of a file is not on the web. -/
theorem scheme_of_ofFile {s : List Char} {a : Address} (h : ofFile s = .ok a) :
    a.scheme = "file".toList := by
  unfold ofFile at h
  split at h
  · cases h
    rfl
  · rename_i rest _
    dsimp only at h
    split at h
    · cases h
      rfl
    · generalize unbroken (rest.takeWhile fun c => !endsAuthority true c) = name at h
      generalize rest.dropWhile (fun c => !endsAuthority true c) = path at h
      have hon (name : List Char)
          (h : (if (name.isEmpty || decide (name = "localhost".toList)) = true then
              pure (ofFileOn [] path)
            else pure (ofFileOn name (dropSlash true path)) : Except AddressError Address) =
              .ok a) : a.scheme = "file".toList := by
        split at h
        · cases h
          rfl
        · cases h
          rfl
      by_cases hempty : name.isEmpty = true
      · rw [if_pos hempty] at h
        exact hon [] h
      · rw [if_neg hempty] at h
        cases hname : host name with
        | error e =>
            rw [hname] at h
            cases h
        | ok found =>
            rw [hname] at h
            exact hon found h

/-- **The path of an address on the web has settled parts.** -/
theorem exists_parts_of_parse {text : String} {a : Address} (h : parse text = .ok a)
    (hweb : a.isWeb = true) :
    ∃ parts, a.path = .parts parts ∧ parts ≠ [] ∧ ∀ part ∈ parts, Settled part := by
  have hhost := hasHost_of_isWeb hweb
  unfold parse at h
  dsimp only at h
  split at h
  · cases h
  · rename_i scheme rest _
    by_cases hscheme : hasHost scheme = true
    · rw [if_pos hscheme] at h
      obtain ⟨_, parts, hpath, hsettled⟩ := exists_parts_of_withHost h
      exact ⟨parts, hpath, hsettled hscheme⟩
    · -- no other form of an address is one of the web
      exfalso
      rw [if_neg hscheme] at h
      by_cases hfile : scheme = "file".toList
      · rw [if_pos hfile] at h
        rw [scheme_of_ofFile h] at hhost
        exact absurd hhost (by decide)
      · rw [if_neg hfile] at h
        split at h
        · obtain ⟨rfl, _⟩ := exists_parts_of_withHost h
          exact hscheme hhost
        · cases h
          exact hscheme hhost
        · cases h
          exact hscheme hhost

/-! ## Endpoints -/

/-- The text of a path whose last part is empty ends with a slash. -/
theorem withSlash_of_concat_nil (front : List (List Char)) :
    withSlash (String.ofList ((front ++ [[]]).flatMap fun part => '/' :: part)) =
      String.ofList (front.flatMap (fun part => '/' :: part) ++ ['/']) := by
  have hform : (front ++ [[]]).flatMap (fun part => '/' :: part) =
      front.flatMap (fun part => '/' :: part) ++ ['/'] := by simp
  rw [hform, withSlash, String.toList_ofList, List.getLast?_concat, if_pos rfl]

/-- The text of a path whose last part is not empty has no slash at its end. -/
theorem withSlash_of_concat (front : List (List Char)) {last : List Char} (hne : last ≠ [])
    (hslash : '/' ∉ last) :
    withSlash (String.ofList ((front ++ [last]).flatMap fun part => '/' :: part)) =
      String.ofList ((front ++ [last]).flatMap (fun part => '/' :: part) ++ ['/']) := by
  have hlast : ((front ++ [last]).flatMap fun part => '/' :: part).getLast? ≠ some '/' := by
    have hform : (front ++ [last]).flatMap (fun part => '/' :: part) =
        (front.flatMap (fun part => '/' :: part) ++ ['/']) ++ last := by simp
    rw [hform, List.getLast?_append_of_ne_nil _ hne]
    intro hend
    exact hslash (List.mem_of_getLast? hend)
  rw [withSlash, String.toList_ofList, if_neg hlast, String.ofList_append]

/-- **The path of an endpoint** is that of the address, with a slash at its end,
and the name of the endpoint. -/
theorem endpoint_pathText {a : Address} {parts : List (List Char)} (hpath : a.path = .parts parts)
    (hne : parts ≠ []) (hsettled : ∀ part ∈ parts, Settled part) (hweb : a.isWeb = true)
    (name : String) :
    ∃ target, a.endpoint name = .ok target ∧ target.isWeb = true ∧
      target.pathText = withSlash a.pathText ++ name := by
  have hfile : decide (a.scheme = "file".toList) = false := by
    rcases scheme_of_isWeb hweb with hscheme | hscheme
    · rw [hscheme]
      decide
    · rw [hscheme]
      decide
  have hendpoint : a.endpoint name =
      .ok { a with path := .parts ((a.baseParts parts).dropLast ++ [name.toList]) } := by
    rw [endpoint, hpath]
  refine ⟨_, hendpoint, hweb, ?_⟩
  obtain ⟨front, last, rfl⟩ : ∃ front last, parts = front ++ [last] :=
    ⟨parts.dropLast, parts.getLast hne, (List.dropLast_append_getLast hne).symm⟩
  rw [pathText, pathText, hpath]
  dsimp only
  by_cases hlast : last = []
  · have hbase : a.baseParts (front ++ [last]) = front ++ [[]] := by
      rw [baseParts, hlast, List.getLast?_concat, if_pos rfl]
    rw [hbase, List.dropLast_concat, hlast, withSlash_of_concat_nil]
    simp [String.ofList_append, String.append_assoc]
  · have hbase : a.baseParts (front ++ [last]) = (front ++ [last]) ++ [[]] := by
      rw [baseParts, List.getLast?_concat, if_neg (fun h => hlast (Option.some.inj h)), hfile]
      exact readPieces_settled hsettled
    have hslash := (hsettled last (by simp)).slash
    rw [hbase, List.dropLast_concat, withSlash_of_concat front hlast hslash]
    simp [String.ofList_append, String.append_assoc]

end CallTree.Address
