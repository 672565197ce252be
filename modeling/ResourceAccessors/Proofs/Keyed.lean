import Mathlib.Data.List.Dedup
import ResourceAccessors.Keyed

/-!
# Laws of keyed collections

Inserting and looking up seen through the entries, and the collection of a list: which entries it
keeps, when it keeps all of them, and that it commutes with functions on the values and with renaming
the keys in their order. Of several values under one key the last one is kept; where no key is
repeated, the order of the list has no influence.
-/

namespace ResourceAccessors.Keyed

universe u v

variable {α : Type u} {β : Type v}

/-- A map is made by its entries. -/
@[ext]
theorem ext {left right : Keyed α} (same : left.entries = right.entries) : left = right := by
  cases left
  cases right
  cases same
  rfl

/-- A value is inserted among the entries. -/
@[simp]
theorem entries_insert (map : Keyed α) (key : String) (value : α) :
    (map.insert key value).entries = insertEntry key value map.entries := rfl

/-- The collection with a function applied to every value. -/
def mapValues (f : α → β) (map : Keyed α) : Keyed β :=
  ⟨map.entries.map fun entry => (entry.1, f entry.2), List.pairwise_map.2 map.ascending⟩

/-- Changing the values changes each entry under its key. -/
@[simp]
theorem entries_mapValues (f : α → β) (map : Keyed α) :
    (map.mapValues f).entries = map.entries.map fun entry => (entry.1, f entry.2) := rfl

/-- Changing the values changes each of them in place. -/
@[simp]
theorem values_mapValues (f : α → β) (map : Keyed α) :
    (map.mapValues f).values = map.values.map f := by
  rw [values, values, entries_mapValues, List.map_map, List.map_map]
  rfl

/-- Changing the values leaves the keys. -/
@[simp]
theorem keys_mapValues (f : α → β) (map : Keyed α) : (map.mapValues f).keys = map.keys := by
  rw [keys, keys, entries_mapValues, List.map_map]
  rfl

/-- Changing the values twice changes them once by both functions. -/
@[simp]
theorem mapValues_mapValues {γ : Type*} (f : α → β) (g : β → γ) (map : Keyed α) :
    (map.mapValues f).mapValues g = map.mapValues (g ∘ f) := by
  apply ext
  rw [entries_mapValues, entries_mapValues, entries_mapValues, List.map_map]
  rfl

/-! ### Inserted entries -/

/-- The entries after an insertion: the new one, and the old ones with other keys. -/
theorem mem_insertEntry_iff {key : String} {value : α} {entries : List (String × α)}
    (ascending : entries.Pairwise fun left right => left.1 < right.1) {entry : String × α} :
    entry ∈ insertEntry key value entries ↔
      entry = (key, value) ∨ (entry ∈ entries ∧ entry.1 ≠ key) := by
  induction entries with
  | nil => simp [insertEntry]
  | cons first rest inductionHypothesis =>
    have below := (List.pairwise_cons.1 ascending).1
    have rests := (List.pairwise_cons.1 ascending).2
    simp only [insertEntry]
    split
    next less =>
      have others : ∀ old ∈ first :: rest, old.1 ≠ key := by
        intro old mem same
        rcases List.mem_cons.1 mem with rfl | later
        · exact String.lt_irrefl _ (same ▸ less)
        · exact String.lt_irrefl _ (String.lt_trans less (same ▸ below old later))
      rw [List.mem_cons]
      constructor
      · rintro (new | old)
        · exact .inl new
        · exact .inr ⟨old, others entry old⟩
      · rintro (new | ⟨old, -⟩)
        · exact .inl new
        · exact .inr old
    next notLess =>
      split
      next same =>
        have others : ∀ old ∈ rest, old.1 ≠ key := by
          intro old mem equal
          exact String.lt_irrefl first.1 (by simpa [equal, same] using below old mem)
        simp only [List.mem_cons]
        constructor
        · rintro (new | old)
          · exact .inl new
          · exact .inr ⟨.inr old, others entry old⟩
        · rintro (new | ⟨rfl | old, different⟩)
          · exact .inl new
          · exact absurd same.symm different
          · exact .inr old
      next different =>
        rw [List.mem_cons, inductionHypothesis rests, List.mem_cons]
        constructor
        · rintro (rfl | new | ⟨old, other⟩)
          · exact .inr ⟨.inl rfl, Ne.symm different⟩
          · exact .inl new
          · exact .inr ⟨.inr old, other⟩
        · rintro (new | ⟨rfl | old, other⟩)
          · exact .inr (.inl new)
          · exact .inl rfl
          · exact .inr (.inr ⟨old, other⟩)

/-- Inserting under a new key adds one entry. -/
theorem insertEntry_perm {key : String} (value : α) {entries : List (String × α)}
    (new : key ∉ entries.map Prod.fst) :
    (insertEntry key value entries).Perm ((key, value) :: entries) := by
  induction entries with
  | nil => exact .refl _
  | cons first rest inductionHypothesis =>
    simp only [List.map_cons, List.mem_cons, not_or] at new
    simp only [insertEntry]
    split
    · exact .refl _
    · rw [if_neg new.1]
      exact ((inductionHypothesis new.2).cons first).trans (.swap _ _ _)

/-- An entry with the greatest key is inserted at the end. -/
theorem insertEntry_of_forall_lt {key : String} (value : α) {entries : List (String × α)}
    (above : ∀ entry ∈ entries, entry.1 < key) :
    insertEntry key value entries = entries ++ [(key, value)] := by
  induction entries with
  | nil => rfl
  | cons first rest inductionHypothesis =>
    have less : first.1 < key := above first List.mem_cons_self
    have notGreater : ¬ key < first.1 := fun greater =>
      String.lt_irrefl _ (String.lt_trans less greater)
    have different : key ≠ first.1 := fun same => String.lt_irrefl first.1 (same ▸ less)
    rw [insertEntry, if_neg notGreater, if_neg different,
      inductionHypothesis fun entry mem => above entry (List.mem_cons_of_mem _ mem)]
    rfl

/-- Inserting commutes with functions on the values. -/
theorem insertEntry_map (f : α → β) (key : String) (value : α) (entries : List (String × α)) :
    insertEntry key (f value) (entries.map fun entry => (entry.1, f entry.2)) =
      (insertEntry key value entries).map fun entry => (entry.1, f entry.2) := by
  induction entries with
  | nil => rfl
  | cons first rest inductionHypothesis =>
    simp only [List.map_cons, insertEntry]
    split
    · rfl
    · split
      · rfl
      · simp [inductionHypothesis]

/-- Inserting commutes with renaming the keys in their order. -/
theorem insertEntry_rename {rename : String → String}
    (ordered : ∀ left right, rename left < rename right ↔ left < right) (key : String) (value : α)
    (entries : List (String × α)) :
    insertEntry (rename key) value (entries.map fun entry => (rename entry.1, entry.2)) =
      (insertEntry key value entries).map fun entry => (rename entry.1, entry.2) := by
  induction entries with
  | nil => rfl
  | cons first rest inductionHypothesis =>
    have same : rename key = rename first.1 ↔ key = first.1 := by
      constructor
      · intro equal
        have notLess : ¬ key < first.1 := fun less =>
          String.lt_irrefl _ (equal ▸ (ordered _ _).2 less)
        have notGreater : ¬ first.1 < key := fun greater =>
          String.lt_irrefl _ (equal ▸ (ordered _ _).2 greater)
        exact String.le_antisymm (String.not_lt.1 notGreater) (String.not_lt.1 notLess)
      · exact congrArg rename
    simp only [List.map_cons, insertEntry, ordered, same]
    split
    · rfl
    · split
      · rfl
      · rw [inductionHypothesis, List.map_cons]

/-! ### Keys and look-ups -/

/-- The keys ascend. -/
theorem pairwise_keys (map : Keyed α) : map.keys.Pairwise (· < ·) :=
  List.pairwise_map.2 map.ascending

/-- No key is there twice. -/
theorem nodup_keys (map : Keyed α) : map.keys.Nodup := by
  refine map.pairwise_keys.imp fun {left right} less same => ?_
  exact String.lt_irrefl right (same ▸ less)

/-- Collections with the same keys list these in the same order. -/
theorem keys_eq_of_mem_iff {left : Keyed α} {right : Keyed β}
    (same : ∀ key, key ∈ left.keys ↔ key ∈ right.keys) : left.keys = right.keys := by
  refine List.Perm.eq_of_pairwise ?_ left.pairwise_keys right.pairwise_keys
    ((List.perm_ext_iff_of_nodup left.nodup_keys right.nodup_keys).2 same)
  intro one other _ _ less greater
  exact absurd (String.lt_trans less greater) (String.lt_irrefl _)

/-- Looking up finds exactly the entries. -/
theorem find?_eq_some_iff {map : Keyed α} {key : String} {value : α} :
    map.find? key = some value ↔ (key, value) ∈ map.entries := by
  obtain ⟨entries, ascending⟩ := map
  show entries.lookup key = some value ↔ (key, value) ∈ entries
  induction entries with
  | nil => simp
  | cons first rest inductionHypothesis =>
    obtain ⟨firstKey, firstValue⟩ := first
    have below := (List.pairwise_cons.1 ascending).1
    have found := inductionHypothesis (List.pairwise_cons.1 ascending).2
    by_cases same : key = firstKey
    · subst same
      have absent : (key, value) ∉ rest := fun mem => String.lt_irrefl key (below _ mem)
      simp only [List.lookup_cons, beq_self_eq_true, Option.some.injEq, List.mem_cons,
        Prod.mk.injEq, true_and, absent, or_false]
      exact eq_comm
    · have differs : (key == firstKey) = false := beq_eq_false_iff_ne.2 same
      simp only [List.lookup_cons, differs, found, List.mem_cons, Prod.mk.injEq, same, false_and,
        false_or]

/-- A key is there exactly when it is one of the keys. -/
theorem contains_iff {map : Keyed α} {key : String} :
    map.contains key = true ↔ key ∈ map.keys := by
  rw [contains, Option.isSome_iff_exists, keys, List.mem_map]
  constructor
  · rintro ⟨value, found⟩
    exact ⟨_, find?_eq_some_iff.1 found, rfl⟩
  · rintro ⟨entry, mem, rfl⟩
    exact ⟨_, find?_eq_some_iff.2 mem⟩

/-- A key is there exactly when something is found under it. -/
theorem mem_keys_iff {map : Keyed α} {key : String} :
    key ∈ map.keys ↔ (map.find? key).isSome = true := by
  rw [← contains_iff, contains]

/-- Collections with the same entries are equal. -/
theorem eq_of_mem_iff {left right : Keyed α}
    (same : ∀ entry, entry ∈ left.entries ↔ entry ∈ right.entries) : left = right := by
  have distinct : ∀ map : Keyed α, map.entries.Nodup := fun map => .of_map _ map.nodup_keys
  apply ext
  refine List.Perm.eq_of_pairwise ?_ left.ascending right.ascending
    ((List.perm_ext_iff_of_nodup (distinct left) (distinct right)).2 same)
  intro one other _ _ less greater
  exact absurd (String.lt_trans less greater) (String.lt_irrefl _)

/-- Collections in which the same is found are equal. -/
theorem eq_of_find? {left right : Keyed α} (same : ∀ key, left.find? key = right.find? key) :
    left = right := by
  apply eq_of_mem_iff
  intro entry
  rw [← find?_eq_some_iff, ← find?_eq_some_iff, same]

/-- Looking up after a function was applied to every value. -/
theorem find?_mapValues (f : α → β) (map : Keyed α) (key : String) :
    (map.mapValues f).find? key = (map.find? key).map f := by
  apply Option.ext
  intro value
  rw [find?_eq_some_iff, entries_mapValues, List.mem_map, Option.map_eq_some_iff]
  constructor
  · rintro ⟨entry, mem, same⟩
    cases same
    exact ⟨_, find?_eq_some_iff.2 mem, rfl⟩
  · rintro ⟨found, stored, rfl⟩
    exact ⟨_, find?_eq_some_iff.1 stored, rfl⟩

/-! ### Collections of lists -/

/-- Every entry after some insertions is an old one or an inserted one. -/
theorem mem_entries_foldl_insert {items : List (String × α)} {start : Keyed α}
    {entry : String × α}
    (mem : entry ∈ (items.foldl (fun map item => map.insert item.1 item.2) start).entries) :
    entry ∈ start.entries ∨ entry ∈ items := by
  induction items generalizing start with
  | nil => exact .inl mem
  | cons first rest inductionHypothesis =>
    rcases inductionHypothesis mem with old | later
    · rcases mem_insertEntry old with new | older
      · exact .inr (new ▸ List.mem_cons_self)
      · exact .inl older
    · exact .inr (List.mem_cons_of_mem _ later)

/-- Every entry of the collection of a list is an item of the list. -/
theorem mem_of_mem_ofList {items : List (String × α)} {entry : String × α}
    (mem : entry ∈ (ofList items).entries) : entry ∈ items := by
  rcases mem_entries_foldl_insert mem with absurd | item
  · cases absurd
  · exact item

/-- The collection of a list without repeated keys keeps every item. -/
theorem ofList_perm {items : List (String × α)} (distinct : (items.map Prod.fst).Nodup) :
    (ofList items).entries.Perm items := by
  have general : ∀ (start : Keyed α), (∀ item ∈ items, item.1 ∉ start.keys) →
      (items.foldl (fun map item => map.insert item.1 item.2) start).entries.Perm
        (start.entries ++ items) := by
    induction items with
    | nil => simp
    | cons first rest inductionHypothesis =>
      intro start apart
      have new := apart first List.mem_cons_self
      have inserted := insertEntry_perm first.2 new
      simp only [List.map_cons, List.nodup_cons] at distinct
      have later := inductionHypothesis distinct.2 (start.insert first.1 first.2) <| by
        intro item mem found
        have among := (inserted.map Prod.fst).mem_iff.1 found
        rcases List.mem_cons.1 among with same | old
        · exact distinct.1 (same ▸ List.mem_map_of_mem mem)
        · exact apart item (List.mem_cons_of_mem _ mem) old
      refine later.trans ((inserted.append_right rest).trans ?_)
      exact List.perm_middle.symm
  exact general empty fun _ _ found => by cases found

/-- Looking up in the collection of a list without repeated keys finds every item. -/
theorem find?_ofList_of_mem {items : List (String × α)} (distinct : (items.map Prod.fst).Nodup)
    {key : String} {value : α} (mem : (key, value) ∈ items) :
    (ofList items).find? key = some value :=
  find?_eq_some_iff.2 ((ofList_perm distinct).mem_iff.2 mem)

/-- The order of a list without repeated keys has no influence on its collection. -/
theorem ofList_eq_of_perm {items others : List (String × α)}
    (distinct : (items.map Prod.fst).Nodup) (same : items.Perm others) :
    ofList items = ofList others := by
  have distinctOthers : (others.map Prod.fst).Nodup := (same.map Prod.fst).nodup_iff.1 distinct
  apply eq_of_mem_iff
  intro entry
  rw [(ofList_perm distinct).mem_iff, (ofList_perm distinctOthers).mem_iff, same.mem_iff]

/-- A collection is the collection of its entries. -/
theorem ofList_entries (map : Keyed α) : ofList map.entries = map := by
  have general : ∀ (entries : List (String × α)) (start : Keyed α),
      (start.entries ++ entries).Pairwise (fun left right => left.1 < right.1) →
      (entries.foldl (fun map entry => map.insert entry.1 entry.2) start).entries =
        start.entries ++ entries := by
    intro entries
    induction entries with
    | nil => simp
    | cons first rest inductionHypothesis =>
      intro start ascending
      have above : ∀ entry ∈ start.entries, entry.1 < first.1 := fun entry mem =>
        (List.pairwise_append.1 ascending).2.2 entry mem first List.mem_cons_self
      have inserted := insertEntry_of_forall_lt first.2 above
      rw [List.foldl_cons, inductionHypothesis]
      · simp [inserted]
      · simpa [inserted] using ascending
  exact ext (general map.entries empty map.ascending)

/-- Collecting commutes with functions on the values. -/
theorem entries_ofList_map (f : α → β) (items : List (String × α)) :
    (ofList (items.map fun item => (item.1, f item.2))).entries =
      (ofList items).entries.map fun entry => (entry.1, f entry.2) := by
  have general : ∀ (left : Keyed β) (right : Keyed α),
      left.entries = right.entries.map (fun entry => (entry.1, f entry.2)) →
      ((items.map fun item => (item.1, f item.2)).foldl
        (fun map item => map.insert item.1 item.2) left).entries =
      (items.foldl (fun map item => map.insert item.1 item.2) right).entries.map
        fun entry => (entry.1, f entry.2) := by
    induction items with
    | nil => exact fun _ _ same => same
    | cons first rest inductionHypothesis =>
      intro left right same
      refine inductionHypothesis _ _ ?_
      rw [entries_insert, entries_insert, same]
      exact insertEntry_map f first.1 first.2 right.entries
  exact general empty empty rfl

/-- The collection of values that a function was applied to. -/
theorem ofList_map (f : α → β) (items : List (String × α)) :
    ofList (items.map fun item => (item.1, f item.2)) = (ofList items).mapValues f :=
  ext (entries_ofList_map f items)

/-- The collection of values under listed keys that a function was applied to. -/
theorem ofList_zip_map (f : α → β) (keys : List String) (values : List α) :
    ofList (keys.zip (values.map f)) = (ofList (keys.zip values)).mapValues f := by
  rw [← ofList_map, List.zip_map_right]
  rfl

/-- Collecting commutes with renaming the keys in their order. -/
theorem entries_ofList_rename {rename : String → String}
    (ordered : ∀ left right, rename left < rename right ↔ left < right)
    (items : List (String × α)) :
    (ofList (items.map fun item => (rename item.1, item.2))).entries =
      (ofList items).entries.map fun entry => (rename entry.1, entry.2) := by
  have general : ∀ left right : Keyed α,
      left.entries = right.entries.map (fun entry => (rename entry.1, entry.2)) →
      ((items.map fun item => (rename item.1, item.2)).foldl
        (fun map item => map.insert item.1 item.2) left).entries =
      (items.foldl (fun map item => map.insert item.1 item.2) right).entries.map
        fun entry => (rename entry.1, entry.2) := by
    induction items with
    | nil => exact fun _ _ same => same
    | cons first rest inductionHypothesis =>
      intro left right same
      refine inductionHypothesis _ _ ?_
      rw [entries_insert, entries_insert, same]
      exact insertEntry_rename ordered first.1 first.2 right.entries
  exact general empty empty rfl

/-- Texts with one beginning stand in the order of their ends. -/
theorem append_lt_append_iff (stem left right : String) :
    stem ++ left < stem ++ right ↔ left < right := by
  have chars : ∀ front : List Char,
      front ++ left.toList < front ++ right.toList ↔ left.toList < right.toList := by
    intro front
    induction front with
    | nil => rfl
    | cons first rest inductionHypothesis =>
      rw [List.cons_append, List.cons_append, List.cons_lt_cons_iff, inductionHypothesis]
      simp
  rw [String.lt_iff, String.lt_iff, String.toList_append, String.toList_append, chars]

/-- One beginning of all keys has no influence on the values. -/
theorem values_ofList_stem (stem : String) (items : List (String × α)) :
    (ofList (items.map fun item => (stem ++ item.1, item.2))).values = (ofList items).values := by
  rw [values, values, entries_ofList_rename (append_lt_append_iff stem), List.map_map]
  rfl

/-! ### The last of several values -/

/-- Looking up after an insertion gives the inserted value under its key and the old ones else. -/
theorem find?_insert (map : Keyed α) (key : String) (value : α) (other : String) :
    (map.insert key value).find? other = if other = key then some value else map.find? other := by
  apply Option.ext
  intro found
  rw [find?_eq_some_iff, entries_insert, mem_insertEntry_iff map.ascending]
  by_cases same : other = key
  · subst same
    simp [eq_comm]
  · simp [same, find?_eq_some_iff]

/-- Looking up after one value was inserted under some keys gives this value under them and the old
ones else. -/
theorem find?_foldl_insert (keys : List String) (value : α) (map : Keyed α) (key : String) :
    (keys.foldl (fun map key => map.insert key value) map).find? key =
      if key ∈ keys then some value else map.find? key := by
  induction keys generalizing map with
  | nil => rfl
  | cons first rest inductionHypothesis =>
    rw [List.foldl_cons, inductionHypothesis, find?_insert]
    by_cases among : key ∈ rest
    · simp [among]
    · by_cases same : key = first <;> simp [among, same]

/-- Of several values under one key the last one is kept. -/
theorem find?_ofList (items : List (String × α)) (key : String) :
    (ofList items).find? key = items.reverse.lookup key := by
  have general : ∀ start : Keyed α,
      (items.foldl (fun map item => map.insert item.1 item.2) start).find? key =
        (items.reverse.lookup key).or (start.find? key) := by
    induction items with
    | nil => simp
    | cons first rest ih =>
      obtain ⟨firstKey, firstValue⟩ := first
      intro start
      rw [List.foldl_cons, ih, find?_insert, List.reverse_cons, List.lookup_append]
      by_cases same : key = firstKey
      · simp [same]
      · have differs : (key == firstKey) = false := beq_eq_false_iff_ne.2 same
        simp [same, differs, List.lookup_cons]
  rw [ofList, general]
  simp [find?, empty]

/-- What is found under a key is computed from the last item with this key. -/
theorem find?_ofList_map (f : String × α → β) (items : List (String × α)) (key : String) :
    (ofList (items.map fun item => (item.1, f item))).find? key =
      (items.reverse.find? fun item => key == item.1).map f := by
  rw [find?_ofList, ← List.map_reverse]
  induction items.reverse with
  | nil => rfl
  | cons first rest inductionHypothesis =>
    rw [List.map_cons, List.lookup_cons, List.find?_cons]
    cases key == first.1 with
    | true => rfl
    | false => exact inductionHypothesis

/-- What is found under a key is the last item with this key. -/
theorem exists_last_of_find?_ofList {items : List (String × α)} {key : String} {value : α}
    (found : (ofList items).find? key = some value) :
    ∃ before after, items = before ++ (key, value) :: after ∧ ∀ item ∈ after, item.1 ≠ key := by
  rw [find?_ofList, List.lookup_eq_some_iff] at found
  obtain ⟨after, before, split, apart⟩ := found
  refine ⟨before.reverse, after.reverse, ?_, ?_⟩
  · simpa using congrArg List.reverse split
  · intro item mem same
    have differs := apart item (List.mem_reverse.1 mem)
    simp [same] at differs

/-- The keys of the collection of a list are those of its items. -/
theorem mem_keys_ofList {items : List (String × α)} {key : String} :
    key ∈ (ofList items).keys ↔ key ∈ items.map Prod.fst := by
  constructor
  · intro mem
    obtain ⟨entry, entryMem, rfl⟩ := List.mem_map.1 mem
    exact List.mem_map_of_mem (mem_of_mem_ofList entryMem)
  · intro mem
    obtain ⟨item, itemMem, rfl⟩ := List.mem_map.1 mem
    have found : (items.reverse.lookup item.1).isSome = true :=
      List.lookup_isSome_iff.2 ⟨item, List.mem_reverse.2 itemMem, beq_self_eq_true _⟩
    obtain ⟨value, kept⟩ := Option.isSome_iff_exists.1 found
    rw [← find?_ofList, find?_eq_some_iff] at kept
    exact List.mem_map.2 ⟨_, kept, rfl⟩

/-- The collection of a list has as many entries as the list exactly when no key is repeated. -/
theorem length_ofList_eq_iff (items : List (String × α)) :
    (ofList items).entries.length = items.length ↔ (items.map Prod.fst).Nodup := by
  have keys : (ofList items).keys.Perm (items.map Prod.fst).dedup := by
    rw [List.perm_ext_iff_of_nodup (nodup_keys _) (List.nodup_dedup _)]
    intro key
    rw [mem_keys_ofList, List.mem_dedup]
  have kept : (ofList items).entries.length = (items.map Prod.fst).dedup.length := by
    rw [← keys.length_eq, Keyed.keys, List.length_map]
  have all : items.length = (items.map Prod.fst).length := (List.length_map _).symm
  rw [kept, all, ← List.dedup_eq_self]
  constructor
  · intro same
    exact (List.dedup_sublist _).eq_of_length same
  · intro same
    rw [same]

end ResourceAccessors.Keyed
