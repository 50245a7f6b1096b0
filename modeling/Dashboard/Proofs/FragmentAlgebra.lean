import Dashboard.Proofs.PlannedText

/-!
# The algebra of fragments

* Fragments are a monoid (`Fragment.append_assoc`, `Fragment.empty_append`,
  `Fragment.append_empty`), so that groups of them may be put together first
  (`Fragment.concat_flatten`).
* `Fragment.gather` puts a fragment behind strings and values that were gathered so far. Whatever
  was gathered from fragments is what the parts come to (`Fragment.foldl_gather`).
* A `Composition` is any way of making a fragment of others. Carried out on bare strings and values,
  it never ends in ones that do not fit (`Composition.assemble_eq_ok`).
* `Fragment.render_concat`: parts that follow one another have the texts that they have by
  themselves, with the placeholders raised by the number of values in front of them.
* `fragment_algebra` collects these laws.
-/

namespace Dashboard
namespace Fragment

/-! ### A monoid -/

theorem joinStrings_assoc (s t u : List String) :
    joinStrings (joinStrings s t) u = joinStrings s (joinStrings t u) := by
  fun_induction joinStrings s t with
  | case1 t => rfl
  | case2 a b t =>
    cases t with
    | nil => cases u <;> simp [joinStrings, String.append_assoc]
    | cons c t => rfl
  | case3 a => rfl
  | case4 a b s t ih =>
    obtain ⟨c, v, hv⟩ := exists_joinStrings_cons b s t
    rw [hv] at ih ⊢
    exact congrArg (a :: ·) ih

theorem joinStrings_empty {s : List String} (h : s ≠ []) : joinStrings s [""] = s := by
  induction s with
  | nil => exact absurd rfl h
  | cons a s ih =>
    cases s with
    | nil => simp [joinStrings]
    | cons b s => exact congrArg (a :: ·) (ih (by simp))

theorem empty_joinStrings {t : List String} (h : t ≠ []) : joinStrings [""] t = t := by
  obtain ⟨b, t, rfl⟩ := List.exists_cons_of_ne_nil h
  simp [joinStrings]

/-- Fragments may be put together in any grouping. -/
theorem append_assoc (f g h : Fragment) : f ++ g ++ h = f ++ (g ++ h) :=
  Fragment.ext (joinStrings_assoc _ _ _) (List.append_assoc _ _ _)

theorem empty_append (f : Fragment) : empty ++ f = f :=
  Fragment.ext (empty_joinStrings f.strings_ne_nil) rfl

theorem append_empty (f : Fragment) : f ++ empty = f :=
  Fragment.ext (joinStrings_empty f.strings_ne_nil) (List.append_nil _)

theorem concat_append (fs gs : List Fragment) : concat (fs ++ gs) = concat fs ++ concat gs := by
  induction fs with
  | nil => exact (empty_append _).symm
  | cons f fs ih => rw [List.cons_append, concat_cons, concat_cons, ih, append_assoc]

/-- Fragments that are put together in groups, and then the groups, are the same as at once. -/
theorem concat_flatten (fss : List (List Fragment)) :
    concat (fss.map concat) = concat fss.flatten := by
  induction fss with
  | nil => rfl
  | cons fs fss ih => rw [List.map_cons, concat_cons, ih, List.flatten_cons, concat_append]

/-! ### Separators -/

/-- The parts of a list, each but the first with a separator in front of it. -/
def separated (separator : Fragment) (fs : List Fragment) : List Fragment :=
  (fs.mapIdx fun i f => if i = 0 then [f] else [separator, f]).flatten

theorem separated_cons_cons (separator f g : Fragment) (fs : List Fragment) :
    separated separator (f :: g :: fs) = f :: separator :: separated separator (g :: fs) := by
  simp [separated, List.mapIdx_cons]

theorem intersperse_eq_separated (separator : Fragment) (fs : List Fragment) :
    fs.intersperse separator = separated separator fs := by
  cases fs with
  | nil => rfl
  | cons f fs =>
    induction fs generalizing f with
    | nil => rfl
    | cons g fs ih => rw [List.intersperse_cons_cons, separated_cons_cons, ih]

/-! ### One part after the other -/

/-- One more fragment behind strings and values that were gathered: the last string and its first
become one. -/
def gather (gathered : List String × List Value) (f : Fragment) : List String × List Value :=
  (joinStrings gathered.1 f.strings, gathered.2 ++ f.values)

theorem foldl_gather (fs : List Fragment) (f : Fragment) :
    fs.foldl gather (f.strings, f.values) =
      ((f ++ concat fs).strings, (f ++ concat fs).values) := by
  induction fs generalizing f with
  | nil => rw [concat_nil, append_empty]; rfl
  | cons g fs ih =>
    rw [concat_cons, ← append_assoc, ← ih]
    rfl

end Fragment

/-! ### Operations on fragments -/

/-- How a fragment is made of others. -/
inductive Composition where
  | given (f : Fragment)
  | raw (text : String)
  | bind (value : Value)
  | quoted (identifier : String)
  | append (a b : Composition)
  | concat (parts : List Composition)
  | join (separator : String) (parts : List Composition)

namespace Composition

mutual

/-- The fragment that a composition comes to. -/
def fragment : Composition → Fragment
  | given f => f
  | raw text => .raw text
  | bind value => .bind value
  | quoted identifier => .quoted identifier
  | append a b => a.fragment ++ b.fragment
  | concat parts => .concat (fragments parts)
  | join separator parts => .join separator (fragments parts)

/-- The fragments of several compositions. -/
def fragments : List Composition → List Fragment
  | [] => []
  | c :: cs => c.fragment :: fragments cs

end

/-- The fragment of parts that are gathered from left to right, if their strings and values fit. -/
def assembleParts (fs : List Fragment) : Except FragmentError Fragment :=
  let gathered := fs.foldl Fragment.gather ([""], [])
  Fragment.ofParts gathered.1 gathered.2

mutual

/-- Carries out a composition on strings and values, and checks for each fragment that they fit. -/
def assemble : Composition → Except FragmentError Fragment
  | given f => Fragment.ofParts f.strings f.values
  | raw text => Fragment.ofParts [text] []
  | bind value => Fragment.ofParts ["", ""] [value]
  | quoted identifier => Fragment.ofParts ["\"" ++ identifier ++ "\""] []
  | append a b => do
    let f ← a.assemble
    let g ← b.assemble
    assembleParts [f, g]
  | concat parts => do
    let fs ← assembleAll parts
    assembleParts fs
  | join separator parts => do
    let fs ← assembleAll parts
    assembleParts (Fragment.separated (.raw separator) fs)

/-- Carries out several compositions. -/
def assembleAll : List Composition → Except FragmentError (List Fragment)
  | [] => return []
  | c :: cs => do
    let f ← c.assemble
    let fs ← assembleAll cs
    return f :: fs

end

theorem ofParts_eq_ok (f : Fragment) : Fragment.ofParts f.strings f.values = .ok f := by
  unfold Fragment.ofParts
  rw [dif_pos f.length_strings]
  rfl

theorem assembleParts_eq_ok (fs : List Fragment) : assembleParts fs = .ok (.concat fs) := by
  have hgathered := Fragment.foldl_gather fs .empty
  rw [Fragment.empty_append] at hgathered
  exact (congrArg (fun p => Fragment.ofParts p.1 p.2) hgathered).trans (ofParts_eq_ok _)

mutual

/-- The check never fails. -/
theorem assemble_eq_ok (c : Composition) : c.assemble = .ok c.fragment := by
  cases c with
  | given f => exact ofParts_eq_ok f
  | raw text => exact ofParts_eq_ok (.raw text)
  | bind value => exact ofParts_eq_ok (.bind value)
  | quoted identifier => exact ofParts_eq_ok (.quoted identifier)
  | append a b =>
    rw [assemble, assemble_eq_ok a, assemble_eq_ok b]
    refine (assembleParts_eq_ok _).trans ?_
    rw [Fragment.concat_cons, Fragment.concat_cons, Fragment.concat_nil, Fragment.append_empty]
    rfl
  | concat parts =>
    rw [assemble, assembleAll_eq_ok parts]
    exact assembleParts_eq_ok _
  | join separator parts =>
    rw [assemble, assembleAll_eq_ok parts]
    refine (assembleParts_eq_ok _).trans ?_
    rw [← Fragment.intersperse_eq_separated]
    rfl

theorem assembleAll_eq_ok (cs : List Composition) : assembleAll cs = .ok (fragments cs) := by
  cases cs with
  | nil => rfl
  | cons c cs =>
    rw [assembleAll, assemble_eq_ok c, assembleAll_eq_ok cs]
    rfl

end

end Composition

/-! ### Rendering -/

namespace Fragment

/-- The number of values in the parts of a list in front of the part at position `i`. -/
def valuesBefore (fs : List Fragment) (i : ℕ) : ℕ := ((fs.take i).flatMap values).length

/-- The pieces of parts that follow one another: those of each part by itself, with the placeholders
raised. -/
def raisedPieces (fs : List Fragment) : List (List Piece) :=
  fs.mapIdx fun i f => (f.pieces 0).map (Piece.raise (valuesBefore fs i))

theorem piecesFrom_eq_mapIdx (fs : List Fragment) (n : ℕ) :
    piecesFrom n fs =
      fs.mapIdx fun i f => (f.pieces 0).map (Piece.raise (n + valuesBefore fs i)) := by
  induction fs generalizing n with
  | nil => rfl
  | cons f fs ih =>
    have hnext (i : ℕ) : valuesBefore (f :: fs) (i + 1) = f.values.length + valuesBefore fs i := by
      simp [valuesBefore]
    have hfirst : f.pieces n = (f.pieces 0).map (Piece.raise n) := by
      simpa using f.pieces_add 0 n
    rw [piecesFrom, ih, List.mapIdx_cons, hfirst]
    simp only [hnext, Nat.add_assoc]
    rfl

theorem textOf_flatten (pss : List (List Piece)) :
    Piece.textOf pss.flatten = String.join (pss.map Piece.textOf) := by
  induction pss with
  | nil => rfl
  | cons ps pss ih =>
    rw [List.flatten_cons, List.map_cons, String.join_cons, ← ih]
    simp [Piece.textOf]

/-- Each part of a rendered fragment has the text that it has by itself, with its placeholders
raised by the number of values in front of it. -/
theorem render_concat (fs : List Fragment) : (concat fs).render =
    ⟨Piece.textOf (raisedPieces fs).flatten, fs.flatMap values⟩ := by
  have htexts : (raisedPieces fs).map Piece.textOf = textsFrom 0 fs := by
    rw [← map_textOf_piecesFrom, piecesFrom_eq_mapIdx]
    simp [raisedPieces]
  have htext : (concat fs).textFrom 0 = Piece.textOf (raisedPieces fs).flatten := by
    rw [textFrom_concat, textOf_flatten, htexts]
  exact congrArg₂ Statement.mk htext (values_concat fs)

end Fragment

open Fragment in
/-- The laws of fragments. However a fragment is made, its strings and values fit at every step,
with one more string than values. Parts may be put together in groups, the empty fragment changes
nothing, and joining puts a separator in front of each part but the first. The rendered text of
parts that follow one another is made of their own texts, with the placeholders of each raised by
the number of values in all parts in front of it, and the parameters are the values of the parts in
order. -/
theorem fragment_algebra :
    (∀ c : Composition, c.assemble = .ok c.fragment ∧
      c.fragment.strings.length = c.fragment.values.length + 1) ∧
    (∀ fss : List (List Fragment), concat (fss.map concat) = concat fss.flatten) ∧
    (∀ f : Fragment, empty ++ f = f ∧ f ++ empty = f) ∧
    (∀ separator fs, join separator fs = concat (separated (raw separator) fs)) ∧
    (∀ f : Fragment, f.render.text = Piece.textOf (f.pieces 0)) ∧
    ∀ fs : List Fragment, (concat fs).render =
      ⟨Piece.textOf (raisedPieces fs).flatten, fs.flatMap values⟩ := by
  refine ⟨fun c => ⟨c.assemble_eq_ok, c.fragment.length_strings⟩, concat_flatten,
    fun f => ⟨empty_append f, append_empty f⟩, fun separator fs => ?_,
    fun f => (textOf_pieces f 0).symm, render_concat⟩
  rw [join, intersperse_eq_separated]

/-- The placeholder of the second part is raised. -/
example : (Fragment.concat [.bind .null, .raw " = ", .bind (.bool true)]).render =
    ⟨":p1 = :p2", [.null, .bool true]⟩ := rfl

end Dashboard
