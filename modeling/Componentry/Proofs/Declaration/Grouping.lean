import Componentry.Declaration.Parameters

/-!
# Attribute names in groups

`joinMarkers` joins the pieces of each parameter list and keeps the other names. Which names belong
together is said by `IsGrouping`, without joining anything: a list begins with a name that opens
one, goes on up to the first name that ends one, and only the last list may be left open. There is
exactly one grouping (`isGrouping_iff`), and `joinMarkers` puts each of its groups into one name. So
nothing is lost (`intercalate_map_joined`), and as no name that comes out opens a list but the last,
joining once more changes nothing (`joinMarkers_eq_self`).
-/

namespace Componentry

/-- A name on its own, or the pieces of one parameter list. -/
inductive NameGroup where
  | name (n : String)
  | list (first : String) (more : List String)

namespace NameGroup

def names : NameGroup → List String
  | name n => [n]
  | list first more => first :: more

def joined : NameGroup → String
  | name n => n
  | list first more => " ".intercalate (first :: more)

def outside? : NameGroup → Option String
  | name n => some n
  | list _ _ => none

/-- A name on its own opens no list. A list is opened by its first name, and not ended before its
last. -/
def WellFormed : NameGroup → Prop
  | name n => opensMarker n = false
  | list first more => opensMarker first = true ∧ ∀ n ∈ more.dropLast, endsWith ')' n = false

def Closed : NameGroup → Prop
  | name _ => True
  | list _ more => ∃ n ∈ more.getLast?, endsWith ')' n = true

end NameGroup

structure IsGrouping (names : List String) (groups : List NameGroup) : Prop where
  flatMap_names : groups.flatMap NameGroup.names = names
  wellFormed : ∀ g ∈ groups, g.WellFormed
  closed : ∀ g ∈ groups.dropLast, g.Closed

/-- The groups of names, after the names of a list that is open. -/
def groupsFrom : Option (String × List String) → List String → List NameGroup
  | none, [] => []
  | some (first, more), [] => [.list first more]
  | some (first, more), n :: ns =>
    if endsWith ')' n then .list first (more ++ [n]) :: groupsFrom none ns
    else groupsFrom (some (first, more ++ [n])) ns
  | none, n :: ns =>
    if opensMarker n then groupsFrom (some (n, [])) ns else .name n :: groupsFrom none ns

def groupsOf (names : List String) : List NameGroup := groupsFrom none names

theorem opensMarker_eq_false_iff {n : String} :
    opensMarker n = false ↔ (beginsWith '(' n = true → endsWith ')' n = true) := by
  simp [opensMarker]

theorem endsWith_append {c : Char} {s t : String} (h : endsWith c t = true) :
    endsWith c (s ++ t) = true := by
  simp only [endsWith, String.toList_append, List.getLast?_append, beq_iff_eq] at h ⊢
  rw [h]
  rfl

namespace NameGroup

theorem joined_eq (g : NameGroup) : g.joined = " ".intercalate g.names := by
  cases g with
  | name n => exact String.intercalate_singleton.symm
  | list first more => rfl

theorem names_ne_nil (g : NameGroup) : g.names ≠ [] := by
  cases g with
  | name n => exact List.cons_ne_nil n []
  | list first more => exact List.cons_ne_nil first more

theorem joined_concat (first : String) (more : List String) (n : String) :
    (list first (more ++ [n])).joined = (list first more).joined ++ " " ++ n := by
  rw [joined, joined, ← List.cons_append,
    String.intercalate_append_of_ne_nil (List.cons_ne_nil _ _) (List.cons_ne_nil _ _),
    String.intercalate_singleton]

/-- A group that is not left open opens no list when it has become one name. -/
theorem opensMarker_joined {g : NameGroup} (hg : g.WellFormed) (hclosed : g.Closed) :
    opensMarker g.joined = false := by
  cases g with
  | name n => exact hg
  | list first more =>
      obtain ⟨n, hn, hends⟩ := hclosed
      obtain ⟨ms, rfl⟩ := List.getLast?_eq_some_iff.1 hn
      rw [opensMarker_eq_false_iff, joined_concat]
      exact fun _ => endsWith_append hends

end NameGroup

section joining

/-- Joining puts each group into one name. -/
theorem joinFrom_eq_map (pending : Option (String × List String)) (names : List String) :
    joinFrom (pending.map fun p => (NameGroup.list p.1 p.2).joined) names =
      (groupsFrom pending names).map NameGroup.joined := by
  fun_induction groupsFrom pending names with
  | case1 => rfl
  | case2 first more => rfl
  | case3 first more n ns hends ih =>
      rw [Option.map_some, joinFrom, if_pos hends, List.map_cons, NameGroup.joined_concat, ← ih]
      rfl
  | case4 first more n ns hends ih =>
      rw [Option.map_some, joinFrom, if_neg hends, ← ih, Option.map_some, NameGroup.joined_concat]
  | case5 n ns hopens ih =>
      rw [Option.map_none, joinFrom, if_pos hopens, ← ih]
      rfl
  | case6 n ns hopens ih =>
      rw [Option.map_none, joinFrom, if_neg hopens, List.map_cons, ← ih]
      rfl

theorem joinMarkers_eq_map (names : List String) :
    joinMarkers names = (groupsOf names).map NameGroup.joined :=
  joinFrom_eq_map none names

theorem intercalate_map_joined (groups : List NameGroup) :
    " ".intercalate (groups.map NameGroup.joined) =
      " ".intercalate (groups.flatMap NameGroup.names) := by
  induction groups with
  | nil => rfl
  | cons g gs ih =>
      rw [List.map_cons, List.flatMap_cons, NameGroup.joined_eq]
      by_cases hnil : gs = []
      · rw [hnil]
        simp
      · have hnames : gs.flatMap NameGroup.names ≠ [] := by
          obtain ⟨g', gs', rfl⟩ := List.exists_cons_of_ne_nil hnil
          rw [List.flatMap_cons]
          exact List.append_ne_nil_of_left_ne_nil g'.names_ne_nil _
        rw [String.intercalate_cons_of_ne_nil (mt List.map_eq_nil_iff.1 hnil), ih,
          String.intercalate_append_of_ne_nil g.names_ne_nil hnames]

theorem outside_sublist (groups : List NameGroup) :
    (groups.filterMap NameGroup.outside?).Sublist (groups.map NameGroup.joined) := by
  induction groups with
  | nil => exact List.Sublist.slnil
  | cons g gs ih =>
      cases g with
      | name n => exact ih.cons_cons n
      | list first more => exact ih.cons _

/-- Names of which none opens a list, the last one aside, are not joined. -/
theorem joinMarkers_eq_self {names : List String}
    (h : ∀ n ∈ names.dropLast, opensMarker n = false) : joinMarkers names = names := by
  induction names with
  | nil => rfl
  | cons n ns ih =>
      cases ns with
      | nil => by_cases hn : opensMarker n = true <;> simp [joinMarkers, joinFrom, hn]
      | cons m ms =>
          rw [List.dropLast_cons_cons, List.forall_mem_cons] at h
          have hrest := ih h.2
          rw [joinMarkers] at hrest ⊢
          rw [joinFrom, if_neg (Bool.eq_false_iff.1 h.1), hrest]

end joining

namespace IsGrouping

theorem nil : IsGrouping [] [] := ⟨rfl, nofun, nofun⟩

theorem singleton {g : NameGroup} (hg : g.WellFormed) : IsGrouping g.names [g] :=
  ⟨List.flatMap_singleton _ _, List.forall_mem_singleton.2 hg, nofun⟩

theorem cons {g : NameGroup} (hg : g.WellFormed) (hclosed : g.Closed) {names : List String}
    {groups : List NameGroup} (h : IsGrouping names groups) :
    IsGrouping (g.names ++ names) (g :: groups) := by
  refine ⟨?_, List.forall_mem_cons.2 ⟨hg, h.wellFormed⟩, ?_⟩
  · rw [List.flatMap_cons, h.flatMap_names]
  · cases groups with
    | nil => exact nofun
    | cons g' gs =>
        rw [List.dropLast_cons_cons]
        exact List.forall_mem_cons.2 ⟨hclosed, h.closed⟩

end IsGrouping

section grouping

theorem isGrouping_groupsFrom {pending : Option (String × List String)} {names : List String}
    (h : ∀ p ∈ pending, opensMarker p.1 = true ∧ ∀ n ∈ p.2, endsWith ')' n = false) :
    IsGrouping ((pending.elim [] fun p => p.1 :: p.2) ++ names) (groupsFrom pending names) := by
  fun_induction groupsFrom pending names with
  | case1 => exact IsGrouping.nil
  | case2 first more =>
      obtain ⟨hopens, hmore⟩ := h _ rfl
      have hg : (NameGroup.list first more).WellFormed :=
        ⟨hopens, fun n hn => hmore n (List.dropLast_subset more hn)⟩
      rw [List.append_nil]
      exact IsGrouping.singleton hg
  | case3 first more n ns hends ih =>
      obtain ⟨hopens, hmore⟩ := h _ rfl
      have hg : (NameGroup.list first (more ++ [n])).WellFormed :=
        ⟨hopens, by rwa [List.dropLast_concat]⟩
      have hclosed : (NameGroup.list first (more ++ [n])).Closed :=
        ⟨n, List.getLast?_concat, hends⟩
      have hcons := IsGrouping.cons hg hclosed (ih nofun)
      rw [NameGroup.names, ← List.cons_append, List.append_assoc] at hcons
      exact hcons
  | case4 first more n ns hends ih =>
      obtain ⟨hopens, hmore⟩ := h _ rfl
      have hrest := ih fun p hp => by
        cases hp
        refine ⟨hopens, List.forall_mem_append.2 ⟨hmore, ?_⟩⟩
        exact List.forall_mem_singleton.2 (Bool.eq_false_iff.2 hends)
      rw [Option.elim_some, ← List.cons_append, List.append_assoc] at hrest
      exact hrest
  | case5 n ns hopens ih =>
      refine ih fun p hp => ?_
      cases hp
      exact ⟨hopens, nofun⟩
  | case6 n ns hopens ih =>
      have hg : (NameGroup.name n).WellFormed := Bool.eq_false_iff.2 hopens
      exact IsGrouping.cons hg trivial (ih nofun)

/-- Names that end no list go to the list that is open. -/
theorem groupsFrom_append {first : String} {more names : List String}
    (h : ∀ n ∈ names, endsWith ')' n = false) (rest : List String) :
    groupsFrom (some (first, more)) (names ++ rest) =
      groupsFrom (some (first, more ++ names)) rest := by
  induction names generalizing more with
  | nil => rw [List.nil_append, List.append_nil]
  | cons n names ih =>
      rw [List.forall_mem_cons] at h
      rw [List.cons_append, groupsFrom, if_neg (Bool.eq_false_iff.1 h.1), ih h.2, List.append_assoc]
      rfl

theorem groupsOf_names_append {g : NameGroup} (hg : g.WellFormed) (hclosed : g.Closed)
    (names : List String) : groupsOf (g.names ++ names) = g :: groupsOf names := by
  cases g with
  | name n =>
      have hn : opensMarker n = false := hg
      rw [NameGroup.names, List.cons_append, groupsOf, groupsFrom, if_neg (Bool.eq_false_iff.1 hn)]
      rfl
  | list first more =>
      obtain ⟨hopens, hmore⟩ := hg
      obtain ⟨n, hn, hends⟩ := hclosed
      obtain ⟨ms, rfl⟩ := List.getLast?_eq_some_iff.1 hn
      rw [List.dropLast_concat] at hmore
      rw [NameGroup.names, List.cons_append, groupsOf, groupsFrom, if_pos hopens,
        List.append_assoc, groupsFrom_append hmore, List.cons_append, groupsFrom, if_pos hends]
      rfl

theorem groupsOf_names {g : NameGroup} (hg : g.WellFormed) : groupsOf g.names = [g] := by
  by_cases hclosed : g.Closed
  · have happend := groupsOf_names_append hg hclosed []
    rwa [List.append_nil] at happend
  · cases g with
    | name n => exact absurd trivial hclosed
    | list first more =>
        -- a list that is left open has no name that ends it, the last one included
        have hmore : ∀ n ∈ more, endsWith ')' n = false := by
          rcases List.eq_nil_or_concat more with rfl | ⟨ms, n, rfl⟩
          · exact nofun
          · have hwithin := hg.2
            rw [List.concat_eq_append] at hwithin ⊢
            rw [List.dropLast_concat] at hwithin
            refine List.forall_mem_append.2 ⟨hwithin, List.forall_mem_singleton.2 ?_⟩
            refine Bool.eq_false_iff.2 fun hends => hclosed ⟨n, ?_, hends⟩
            rw [List.concat_eq_append]
            exact List.getLast?_concat
        have hgroups : groupsFrom (some (first, [])) (more ++ []) =
            groupsFrom (some (first, [] ++ more)) [] := groupsFrom_append hmore []
        rw [List.append_nil, List.nil_append] at hgroups
        rw [NameGroup.names, groupsOf, groupsFrom, if_pos hg.1, hgroups, groupsFrom]

/-- Names are grouped in one way only. -/
theorem isGrouping_iff {names : List String} {groups : List NameGroup} :
    IsGrouping names groups ↔ groups = groupsOf names := by
  constructor
  · rintro ⟨rfl, hwellFormed, hclosed⟩
    induction groups with
    | nil => rfl
    | cons g gs ih =>
        rw [List.forall_mem_cons] at hwellFormed
        cases gs with
        | nil => rw [List.flatMap_singleton, groupsOf_names hwellFormed.1]
        | cons g' gs =>
            rw [List.dropLast_cons_cons, List.forall_mem_cons] at hclosed
            rw [List.flatMap_cons, groupsOf_names_append hwellFormed.1 hclosed.1,
              ← ih hwellFormed.2 hclosed.2]
  · rintro rfl
    have hnone : ∀ p ∈ (none : Option (String × List String)),
        opensMarker p.1 = true ∧ ∀ n ∈ p.2, endsWith ')' n = false := nofun
    exact isGrouping_groupsFrom hnone

end grouping

/-- Of the names that come out of joining, only the last can open a list. -/
theorem opensMarker_of_mem_dropLast {names : List String} :
    ∀ n ∈ (joinMarkers names).dropLast, opensMarker n = false := by
  have hgrouping := isGrouping_iff.2 (Eq.refl (groupsOf names))
  rw [joinMarkers_eq_map, ← List.map_dropLast]
  intro n hn
  obtain ⟨g, hg, rfl⟩ := List.mem_map.1 hn
  exact NameGroup.opensMarker_joined (hgrouping.wellFormed g (List.dropLast_subset _ hg))
    (hgrouping.closed g hg)

/-- Joining the pieces of lists keeps the text of the names, with single blanks between them. The
names are grouped in exactly one way, each group becomes one name, and those outside the lists stay
as they are and in order. Every name that comes out and begins with `(` ends with `)`, the last one
aside, and joining once more changes nothing. -/
theorem joinMarkers_lossless (names : List String) :
    " ".intercalate (joinMarkers names) = " ".intercalate names ∧
      (∀ n ∈ (joinMarkers names).dropLast, beginsWith '(' n = true → endsWith ')' n = true) ∧
      (∃ groups, (∀ gs, IsGrouping names gs ↔ gs = groups) ∧
        joinMarkers names = groups.map NameGroup.joined ∧
        (groups.filterMap NameGroup.outside?).Sublist (joinMarkers names)) ∧
      joinMarkers (joinMarkers names) = joinMarkers names := by
  have hgrouping := isGrouping_iff.2 (Eq.refl (groupsOf names))
  have hmap := joinMarkers_eq_map names
  refine ⟨?_, ?_, ⟨groupsOf names, fun gs => isGrouping_iff, hmap, ?_⟩, ?_⟩
  · rw [hmap, intercalate_map_joined, hgrouping.flatMap_names]
  · exact fun n hn => opensMarker_eq_false_iff.1 (opensMarker_of_mem_dropLast n hn)
  · exact hmap ▸ outside_sublist _
  · exact joinMarkers_eq_self opensMarker_of_mem_dropLast

/-- A stray end, an empty name in a list and a list that is left open. -/
example : joinMarkers ["id", "b)", "(a,", "", "b)", "(c)", "(d", "(e"] =
    ["id", "b)", "(a,  b)", "(c)", "(d (e"] := by decide

end Componentry
