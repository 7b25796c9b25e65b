import LibraryScout.Json.Value
import Mathlib.Data.List.Nodup

/-!
Contract: members of objects under insertion.

Owns:
- the names after an insertion, which stay distinct;
- members with distinct names, which insertion one by one leaves as they are;
- `last?`, the value that insertion one by one leaves for a name.

Does not own: where members come from.
-/

namespace LibraryScout.Json.Members

def names (members : Members) : List String :=
  members.map Prod.fst

theorem nodup_names_nil : (names []).Nodup :=
  List.nodup_nil

theorem names_append (first second : Members) :
    names (first ++ second) = names first ++ names second :=
  List.map_append

theorem insert_of_notMem {members : Members} {name : String} (fresh : name ∉ names members)
    (value : Json) : insert members name value = members ++ [(name, value)] := by
  induction members with
  | nil => rfl
  | cons member others inductionHypothesis =>
      obtain ⟨present, held⟩ := member
      rw [names, List.map_cons, List.mem_cons, not_or] at fresh
      rw [insert, if_neg (Ne.symm fresh.1), inductionHypothesis fresh.2, List.cons_append]

theorem names_insert_of_mem {members : Members} {name : String} (known : name ∈ names members)
    (value : Json) : names (insert members name value) = names members := by
  induction members with
  | nil => cases known
  | cons member others inductionHypothesis =>
      obtain ⟨present, held⟩ := member
      rw [insert]
      by_cases same : present = name
      · rw [if_pos same, names, List.map_cons, names, List.map_cons, same]
      · have later : name ∈ names others := by
          rcases List.mem_cons.1 known with first | later
          · exact absurd first.symm same
          · exact later
        rw [if_neg same, names, List.map_cons, names, List.map_cons]
        exact congrArg (present :: ·) (inductionHypothesis later)

theorem mem_insert {members : Members} {name : String} {value : Json} {member : String × Json}
    (isMember : member ∈ insert members name value) :
    member = (name, value) ∨ member ∈ members := by
  induction members with
  | nil => exact .inl (List.mem_singleton.1 isMember)
  | cons first others inductionHypothesis =>
      obtain ⟨present, held⟩ := first
      rw [insert] at isMember
      split at isMember
      · rcases List.mem_cons.1 isMember with new | old
        · exact .inl new
        · exact .inr (List.mem_cons_of_mem _ old)
      · rcases List.mem_cons.1 isMember with first | later
        · exact .inr (first ▸ List.mem_cons_self)
        · rcases inductionHypothesis later with new | old
          · exact .inl new
          · exact .inr (List.mem_cons_of_mem _ old)

theorem mem_names_insert {members : Members} {name other : String} {value : Json}
    (isName : other ∈ names (insert members name value)) :
    other = name ∨ other ∈ names members := by
  obtain ⟨member, isMember, rfl⟩ := List.mem_map.1 isName
  rcases mem_insert isMember with rfl | old
  · exact .inl rfl
  · exact .inr (List.mem_map_of_mem old)

theorem nodup_insert {members : Members} (distinct : (names members).Nodup) (name : String)
    (value : Json) : (names (insert members name value)).Nodup := by
  by_cases known : name ∈ names members
  · rwa [names_insert_of_mem known]
  · rw [insert_of_notMem known, names_append]
    exact List.Nodup.append distinct (List.nodup_singleton name)
      (List.disjoint_singleton.2 known)

/-! ## Insertion one by one -/

theorem foldl_insert {members pairs : Members} (distinct : (names (members ++ pairs)).Nodup) :
    pairs.foldl (fun members pair => insert members pair.1 pair.2) members = members ++ pairs := by
  induction pairs generalizing members with
  | nil => rw [List.foldl_nil, List.append_nil]
  | cons pair later inductionHypothesis =>
      have fresh : pair.1 ∉ names members := by
        rw [names_append] at distinct
        intro known
        exact List.disjoint_of_nodup_append distinct known List.mem_cons_self
      have regrouped : members ++ [pair] ++ later = members ++ pair :: later := by simp
      rw [List.foldl_cons, insert_of_notMem fresh]
      exact (inductionHypothesis (regrouped ▸ distinct)).trans regrouped

/-- Members with distinct names are left as they are. -/
theorem ofPairs_of_nodup {pairs : Members} (distinct : (names pairs).Nodup) :
    ofPairs pairs = pairs :=
  foldl_insert distinct

theorem nodup_foldl_insert {members : Members} (distinct : (names members).Nodup)
    (pairs : Members) :
    (names (pairs.foldl (fun members pair => insert members pair.1 pair.2) members)).Nodup := by
  induction pairs generalizing members with
  | nil => exact distinct
  | cons pair later inductionHypothesis =>
      exact inductionHypothesis (nodup_insert distinct pair.1 pair.2)

theorem nodup_ofPairs (pairs : Members) : (names (ofPairs pairs)).Nodup :=
  nodup_foldl_insert nodup_names_nil pairs

theorem mem_foldl_insert {members pairs : Members} {member : String × Json}
    (isMember : member ∈ pairs.foldl (fun members pair => insert members pair.1 pair.2) members) :
    member ∈ members ∨ member ∈ pairs := by
  induction pairs generalizing members with
  | nil => exact .inl isMember
  | cons pair later inductionHypothesis =>
      rcases inductionHypothesis isMember with inserted | inLater
      · rcases mem_insert inserted with rfl | old
        · exact .inr List.mem_cons_self
        · exact .inl old
      · exact .inr (List.mem_cons_of_mem _ inLater)

theorem mem_ofPairs {pairs : Members} {member : String × Json}
    (isMember : member ∈ ofPairs pairs) : member ∈ pairs := by
  rcases mem_foldl_insert isMember with none | inPairs
  · cases none
  · exact inPairs

/-! ## The last value of a name -/

/-- The value of the last member with a name. -/
def last? (name : String) : Members → Option Json
  | [] => none
  | (present, value) :: others =>
      (last? name others).or (if present = name then some value else none)

theorem last?_append (name : String) (first second : Members) :
    last? name (first ++ second) = (last? name second).or (last? name first) := by
  induction first with
  | nil => rw [List.nil_append, last?, Option.or_none]
  | cons member others inductionHypothesis =>
      rw [List.cons_append, last?, inductionHypothesis, last?, Option.or_assoc]

theorem last?_eq_none_iff {name : String} {members : Members} :
    last? name members = none ↔ name ∉ names members := by
  induction members with
  | nil => simp [last?, names]
  | cons member others inductionHypothesis =>
      obtain ⟨present, value⟩ := member
      rw [last?, Option.or_eq_none_iff, inductionHypothesis]
      simp [names, eq_comm, and_comm]

/-- A value is the last of a name if it stands somewhere and the name does not stand behind it. -/
theorem last?_eq_some_iff {name : String} {members : Members} {value : Json} :
    last? name members = some value ↔
      ∃ before behind, members = before ++ (name, value) :: behind ∧ name ∉ names behind := by
  constructor
  · intro isLast
    induction members with
    | nil => cases isLast
    | cons member others inductionHypothesis =>
        obtain ⟨present, held⟩ := member
        rw [last?, Option.or_eq_some_iff] at isLast
        rcases isLast with later | ⟨noneLater, here⟩
        · obtain ⟨before, behind, rfl, absent⟩ := inductionHypothesis later
          exact ⟨(present, held) :: before, behind, rfl, absent⟩
        · split at here
          next same =>
            cases here
            exact ⟨[], others, by rw [same]; rfl, last?_eq_none_iff.1 noneLater⟩
          next => cases here
  · rintro ⟨before, behind, rfl, absent⟩
    rw [last?_append, last?, last?_eq_none_iff.2 absent, if_pos rfl]
    rfl

theorem get?_insert (members : Members) (name : String) (value : Json) (wanted : String) :
    get? (insert members name value) wanted =
      if name = wanted then some value else get? members wanted := by
  induction members with
  | nil =>
      by_cases same : name = wanted
      · simp [insert, get?, same]
      · simp [insert, get?, same]
  | cons member others inductionHypothesis =>
      obtain ⟨present, held⟩ := member
      rw [insert]
      by_cases here : present = name
      · subst here
        by_cases same : present = wanted <;> simp [get?, same]
      · rw [if_neg here]
        by_cases same : present = wanted
        · have different : name ≠ wanted := fun isWanted => here (same.trans isWanted.symm)
          simp [get?, same, different]
        · simpa [get?, same] using inductionHypothesis

theorem get?_foldl_insert (members pairs : Members) (name : String) :
    get? (pairs.foldl (fun members pair => insert members pair.1 pair.2) members) name =
      (last? name pairs).or (get? members name) := by
  induction pairs generalizing members with
  | nil => rfl
  | cons pair later inductionHypothesis =>
      rw [List.foldl_cons, inductionHypothesis, get?_insert, last?, Option.or_assoc]
      congr 1
      split <;> rfl

theorem get?_ofPairs (pairs : Members) (name : String) :
    get? (ofPairs pairs) name = last? name pairs :=
  (get?_foldl_insert [] pairs name).trans (Option.or_none)

end LibraryScout.Json.Members
