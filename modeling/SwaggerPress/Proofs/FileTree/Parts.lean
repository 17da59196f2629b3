import Mathlib.Data.List.TakeWhile
import SwaggerPress.FileTree.Write
import SwaggerPress.Proofs.Text.Split

/-!
    The parts of a path and of the directories that it lies in. A path lies in the directory that is
    left when its last name is taken off, with the slash before it; dots that stay in place are taken
    off on the way. So the parts of that directory, and of every directory that it lies in, are the
    first parts of the path, and not all of them (`parts_of_parentPath?`, `parts_of_mem_chain`):

        path        ./out//a/./b.json      parts   .  out  a  .  b.json
        directory   ./out//a               parts   .  out  a
        above       ./out   .                      .  out        . -/

namespace SwaggerPress.FileTree

/-- The names between the slashes of a text. -/
def namesOf (cs : List Char) : List String := ((cs.splitOn '/').filter (· ≠ [])).map String.ofList

/-- The parts of a path that is given as characters. -/
def partsOf (cs : List Char) : List String :=
  (if cs.head? = some '/' then ["/"] else []) ++ namesOf cs

theorem pathParts_eq (path : String) : pathParts path = partsOf path.toList := by
  rw [pathParts, startsAtRoot, Text.splitOn_eq, partsOf, namesOf]
  simp only [decide_eq_true_eq]

theorem namesOf_append_slash (xs ys : List Char) :
    namesOf (xs ++ '/' :: ys) = namesOf xs ++ namesOf ys := by
  rw [namesOf, Text.splitOn_append_cons, List.filter_append, List.map_append]
  rfl

theorem partsOf_append_slash (xs ys : List Char) :
    partsOf (xs ++ '/' :: ys) = partsOf (xs ++ ['/']) ++ namesOf ys := by
  have hhead : (xs ++ '/' :: ys).head? = (xs ++ ['/']).head? := by cases xs <;> rfl
  have hnames : namesOf (xs ++ ['/']) = namesOf xs := by
    rw [namesOf_append_slash]
    exact List.append_nil _
  rw [partsOf, partsOf, hhead, namesOf_append_slash, hnames, List.append_assoc]

/-- A slash at the end adds no part, unless it stands for the root. -/
theorem partsOf_slash {xs : List Char} (h : xs ≠ []) : partsOf (xs ++ ['/']) = partsOf xs := by
  have hhead : (xs ++ ['/']).head? = xs.head? := by
    cases xs with
    | nil => exact absurd rfl h
    | cons c xs => rfl
  have hnames : namesOf (xs ++ ['/']) = namesOf xs := by
    rw [namesOf_append_slash]
    exact List.append_nil _
  rw [partsOf, partsOf, hhead, hnames]

/-- A name at the end is one more part. -/
theorem namesOf_name {name : List Char} (hne : name ≠ []) (hslash : '/' ∉ name) :
    namesOf name = [String.ofList name] := by
  rw [namesOf, Text.splitOn_of_not_mem hslash, List.filter_cons_of_pos (by simpa using hne)]
  rfl

/-- Only the empty path has no parts. -/
theorem pathParts_ne_nil {path : String} (h : path ≠ "") : pathParts path ≠ [] := by
  have hne : path.toList ≠ [] := by simpa using h
  rw [pathParts_eq]
  generalize path.toList = cs at hne
  rw [partsOf]
  split
  next => exact List.cons_ne_nil _ _
  next hslash =>
    rw [List.nil_append]
    induction cs using Text.parts_induction '/' with
    | last name hname =>
      rw [namesOf_name hne hname]
      exact List.cons_ne_nil _ _
    | more name rest hname _ =>
      have hne' : name ≠ [] := by
        rintro rfl
        exact hslash rfl
      rw [namesOf_append_slash, namesOf_name hne' hname]
      exact List.cons_ne_nil _ _

/-! ### What is taken off the end -/

/-- What is trimmed off the end of a path is its last parts. -/
theorem partsOf_trimReversed (cs : List Char) :
    ∃ dots, partsOf cs.reverse = partsOf (trimReversed cs).reverse ++ dots := by
  fun_induction trimReversed cs with
  | case1 => exact ⟨[], rfl⟩
  | case2 c rest htrim ih =>
    obtain ⟨dots, hdots⟩ := ih
    rw [Bool.or_eq_true, Bool.and_eq_true, Bool.and_eq_true, decide_eq_true_eq, decide_eq_true_eq,
      Bool.not_eq_true', List.isEmpty_eq_false_iff, decide_eq_true_eq] at htrim
    rcases htrim with ⟨rfl, hne⟩ | ⟨rfl, hhead⟩
    · refine ⟨dots, ?_⟩
      rw [List.reverse_cons, partsOf_slash (by simpa using hne), hdots]
    · obtain ⟨rest, rfl⟩ := List.head?_eq_some_iff.1 hhead
      refine ⟨dots ++ ["."], ?_⟩
      rw [List.reverse_cons, List.reverse_cons, List.append_assoc, List.singleton_append,
        partsOf_append_slash, ← List.reverse_cons, hdots, List.append_assoc]
      rfl
  | case3 c rest _ => exact ⟨[], (List.append_nil _).symm⟩

/-- After trimming only the root ends in a slash. -/
theorem trimReversed_slash {cs rest : List Char} (h : trimReversed cs = '/' :: rest) : rest = [] := by
  fun_induction trimReversed cs with
  | case1 => cases h
  | case2 c tail htrim ih => exact ih h
  | case3 c tail hkeep =>
    cases h
    cases rest with
    | nil => rfl
    | cons c rest => exact absurd rfl hkeep

theorem trimReversed_suffix (cs : List Char) : trimReversed cs <:+ cs := by
  fun_induction trimReversed cs with
  | case1 => exact List.suffix_rfl
  | case2 c rest _ ih => exact ih.trans (List.suffix_cons c rest)
  | case3 c rest _ => exact List.suffix_rfl

/-- The directory that a path lies in is written at its front. -/
theorem front_of_parentPath? {path parent : String} (h : parentPath? path = some parent) :
    parent.toList <+: path.toList := by
  rw [parentPath?] at h
  split at h
  next => cases h
  next => cases h
  next =>
    cases h
    rw [String.toList_ofList, ← List.reverse_suffix, List.reverse_reverse]
    exact (trimReversed_suffix _).trans
      ((List.dropWhile_suffix _).trans (trimReversed_suffix path.toList.reverse))

/-- A path that lies in a directory is the path of that directory, as far as its parts go, and a name,
before what is trimmed off its end. -/
theorem parts_of_parentPath? {path parent : String} (h : parentPath? path = some parent) :
    ∃ last more, pathParts path = pathParts parent ++ last :: more := by
  obtain ⟨dots, hdots⟩ := partsOf_trimReversed path.toList.reverse
  rw [List.reverse_reverse] at hdots
  rw [pathParts_eq, pathParts_eq, hdots]
  rw [parentPath?] at h
  split at h
  next => cases h
  next => cases h
  next hnil hroot =>
    cases h
    rw [String.toList_ofList]
    have hslash : ∀ {rest}, trimReversed path.toList.reverse = '/' :: rest → rest = [] :=
      trimReversed_slash
    generalize trimReversed path.toList.reverse = cs at hnil hroot hslash ⊢
    by_cases hmem : '/' ∈ cs
    · obtain ⟨name, above, rfl, hname⟩ := List.eq_append_cons_of_mem hmem
      have hne : name.reverse ≠ [] := by
        intro hempty
        obtain rfl := List.reverse_eq_nil_iff.1 hempty
        exact hroot (by rw [hslash rfl]; rfl)
      have hdrop : (name ++ '/' :: above).dropWhile (· ≠ '/') = '/' :: above := by
        rw [List.dropWhile_append_of_pos fun c hc => by simpa using ne_of_mem_of_not_mem hc hname]
        rfl
      obtain ⟨more, hmore⟩ := partsOf_trimReversed ('/' :: above)
      have hreverse : (name ++ '/' :: above).reverse = above.reverse ++ '/' :: name.reverse := by
        rw [List.reverse_append, List.reverse_cons, List.append_assoc]
        rfl
      rw [hdrop, hreverse, partsOf_append_slash, ← List.reverse_cons, hmore,
        namesOf_name hne (by simpa using hname)]
      cases more with
      | nil => exact ⟨String.ofList name.reverse, dots, by simp⟩
      | cons last more => exact ⟨last, more ++ String.ofList name.reverse :: dots, by simp⟩
    · have hdrop : cs.dropWhile (· ≠ '/') = [] :=
        List.dropWhile_eq_nil_iff.2 fun c hc => by simpa using ne_of_mem_of_not_mem hc hmem
      have hhead : cs.reverse.head? ≠ some '/' := fun heq =>
        hmem (List.mem_reverse.1 (List.mem_of_mem_head? heq))
      rw [hdrop, partsOf, if_neg hhead,
        namesOf_name (fun h => hnil (List.reverse_eq_nil_iff.1 h)) (by simpa using hmem)]
      exact ⟨_, dots, rfl⟩

/-- The parts of a directory that a path lies in are the first parts of the path. -/
theorem parts_of_mem_chain {above : String} : ∀ {fuel : Nat} {path : String},
    above ∈ chain fuel path → ∃ rest, pathParts path = pathParts above ++ rest
  | fuel + 1, path, h => by
    rw [chain] at h
    split at h
    · cases h
    · rcases List.mem_cons.1 h with rfl | h
      · exact ⟨[], (List.append_nil _).symm⟩
      · cases hparent : parentPath? path with
        | none => rw [hparent] at h; cases h
        | some parent =>
          rw [hparent] at h
          obtain ⟨last, more, hparts⟩ := parts_of_parentPath? hparent
          obtain ⟨rest, hrest⟩ := parts_of_mem_chain h
          exact ⟨rest ++ last :: more, by rw [hparts, hrest, List.append_assoc]⟩

/-- What is made so that a path can be written is the working directory, or first parts of the path,
and not all of them, lead to it. -/
theorem parts_of_mem_chain_directoryOf {above path : String} {fuel : Nat}
    (h : above ∈ chain fuel (directoryOf path)) :
    pathParts above = ["."] ∨ ∃ last more, pathParts path = pathParts above ++ last :: more := by
  have hdot : above ∈ chain fuel "." → pathParts above = ["."] := by
    intro h
    -- a single name lies in the empty path, with which a chain ends
    have hchain : ∀ fuel, chain fuel "" = [] := fun fuel => by cases fuel <;> rfl
    have hparent : parentPath? "." = some "" := by decide
    cases fuel with
    | zero => cases h
    | succ fuel =>
      rw [chain, if_neg (by decide), hparent] at h
      simp only [hchain, List.mem_singleton] at h
      rw [h]
      decide
  rw [directoryOf] at h
  split at h
  next => exact .inl (hdot h)
  next => exact .inl (hdot h)
  next parent _ hparent =>
    obtain ⟨last, more, hparts⟩ := parts_of_parentPath? hparent
    obtain ⟨rest, hrest⟩ := parts_of_mem_chain h
    refine .inr ?_
    rw [hparts, hrest, List.append_assoc]
    cases rest with
    | nil => exact ⟨last, more, rfl⟩
    | cons first rest => exact ⟨first, rest ++ last :: more, rfl⟩

end SwaggerPress.FileTree
