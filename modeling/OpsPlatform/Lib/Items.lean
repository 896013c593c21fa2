/-
Lists of items that a user enters as texts: trimmed, without the empty ones, each once.

`collect` keeps the first occurrence of an item, as a loop over a set of those seen does.  `join`
and `split` take such a list to one text and back.
-/
import OpsPlatform.Lib.Text
import Mathlib.Data.List.Nodup

namespace Lib.Items

open Text

/-! ### Collecting -/

/-- One round of the loop. -/
def addItem (items : List String) (text : String) : List String :=
  let item := trimSpace text
  if item = "" ∨ item ∈ items then items else items ++ [item]

/-- The items of the texts, in the order in which they first occur. -/
def collect (texts : List String) : List String := texts.foldl addItem []

/-- Trimmed items, none of them empty, each once. -/
structure Clean (items : List String) : Prop where
  nodup : items.Nodup
  ne_empty : ∀ item ∈ items, item ≠ ""
  trimmed : ∀ item ∈ items, trimSpace item = item

lemma clean_nil : Clean [] := ⟨List.nodup_nil, by simp, by simp⟩

lemma Clean.of_cons {item : String} {items : List String} (h : Clean (item :: items)) :
    Clean items where
  nodup := (List.nodup_cons.mp h.nodup).2
  ne_empty t ht := h.ne_empty t (List.mem_cons_of_mem _ ht)
  trimmed t ht := h.trimmed t (List.mem_cons_of_mem _ ht)

lemma Clean.of_perm {items items' : List String} (h : Clean items) (hperm : items'.Perm items) :
    Clean items' where
  nodup := hperm.nodup_iff.mpr h.nodup
  ne_empty t ht := h.ne_empty t (hperm.subset ht)
  trimmed t ht := h.trimmed t (hperm.subset ht)

lemma Clean.addItem {items : List String} (h : Clean items) (text : String) :
    Clean (addItem items text) := by
  rw [Items.addItem]
  split
  · exact h
  · next hnew =>
    obtain ⟨hne, hnotMem⟩ := not_or.mp hnew
    refine ⟨?_, ?_, ?_⟩
    · rw [List.nodup_append]
      refine ⟨h.nodup, List.nodup_singleton _, ?_⟩
      intro a ha b hb hab
      obtain rfl := List.mem_singleton.mp hb
      exact hnotMem (hab ▸ ha)
    · intro t ht
      rcases List.mem_append.mp ht with ht | ht
      · exact h.ne_empty t ht
      · exact List.mem_singleton.mp ht ▸ hne
    · intro t ht
      rcases List.mem_append.mp ht with ht | ht
      · exact h.trimmed t ht
      · rw [List.mem_singleton.mp ht, trimSpace_trimSpace]

lemma clean_foldl_addItem {items : List String} (h : Clean items) (texts : List String) :
    Clean (texts.foldl addItem items) := by
  induction texts generalizing items with
  | nil => exact h
  | cons text texts ih => exact ih (h.addItem text)

/-- What is collected is clean. -/
lemma clean_collect (texts : List String) : Clean (collect texts) :=
  clean_foldl_addItem clean_nil texts

/-- The texts of clean items are collected as they stand. -/
lemma foldl_addItem_eq {texts seen items : List String} (htexts : texts.map trimSpace = items)
    (h : Clean (seen ++ items)) : texts.foldl addItem seen = seen ++ items := by
  induction texts generalizing seen items with
  | nil =>
    obtain rfl : [] = items := htexts
    simp
  | cons text texts ih =>
    subst htexts
    rw [List.map_cons, List.append_cons] at h
    have hne : trimSpace text ≠ "" := h.ne_empty _ (by simp)
    have hnotMem : trimSpace text ∉ seen := by
      have hseen := (List.nodup_append.mp h.nodup).1
      intro hmem
      exact (List.nodup_append.mp hseen).2.2 _ hmem _ (List.mem_singleton.mpr rfl) rfl
    rw [List.foldl_cons, addItem, if_neg (not_or.mpr ⟨hne, hnotMem⟩), ih rfl h, List.map_cons,
      ← List.append_cons]

lemma collect_eq {texts items : List String} (htexts : texts.map trimSpace = items)
    (h : Clean items) : collect texts = items := by
  rw [collect, foldl_addItem_eq htexts (by simpa using h), List.nil_append]

lemma collect_of_clean {items : List String} (h : Clean items) : collect items = items := by
  refine collect_eq ?_ h
  calc items.map trimSpace = items.map id := List.map_congr_left h.trimmed
    _ = items := List.map_id _

/-! ### One text -/

/-- `items.join(", ")`. -/
def join (items : List String) : String :=
  String.ofList ([',', ' '].intercalate (items.map String.toList))

/-- `text.split(",")`: at least one piece. -/
def split (text : String) : List String := (text.toList.splitOn ',').map String.ofList

lemma split_singleton {cs : List Char} (h : ',' ∉ cs) :
    split (String.ofList cs) = [String.ofList cs] := by
  rw [split, String.toList_ofList, List.splitOn, List.splitOnP_eq_singleton, List.map_singleton]
  intro c hc
  exact beq_eq_false_iff_ne.mpr fun heq => h (heq ▸ hc)

lemma split_append {cs : List Char} (h : ',' ∉ cs) (ds : List Char) :
    split (String.ofList (cs ++ ',' :: ds)) = String.ofList cs :: split (String.ofList ds) := by
  have hfree : ∀ c ∈ cs, (c == ',') = false := by
    intro c hc
    exact beq_eq_false_iff_ne.mpr fun heq => h (heq ▸ hc)
  rw [split, split, String.toList_ofList, String.toList_ofList, List.splitOn,
    List.splitOnP_append_cons_of_forall_mem hfree ',' rfl]
  rfl

/-- The characters of the joined items. -/
def joinChars (items : List String) : List Char :=
  [',', ' '].intercalate (items.map String.toList)

lemma joinChars_cons_cons (item item' : String) (items : List String) :
    joinChars (item :: item' :: items) =
      item.toList ++ ',' :: (' ' :: joinChars (item' :: items)) := by
  rw [joinChars, List.map_cons, List.map_cons, List.intercalate_cons_cons]
  simp [joinChars]

lemma trimSpace_blank (cs : List Char) :
    trimSpace (String.ofList (' ' :: cs)) = trimSpace (String.ofList cs) := by
  rw [trimSpace, trimSpace, String.toList_ofList, String.toList_ofList, trimChars,
    List.dropWhile_cons_of_pos (by decide), trimChars]

/-- A text with a blank in front splits into the same trimmed pieces. -/
lemma split_blank (cs : List Char) :
    (split (String.ofList (' ' :: cs))).map trimSpace =
      (split (String.ofList cs)).map trimSpace := by
  obtain ⟨piece, pieces, hpieces⟩ := List.exists_cons_of_ne_nil (List.splitOn_ne_nil ',' cs)
  have hcons : List.splitOn ',' (' ' :: cs) = (' ' :: piece) :: pieces := by
    rw [List.splitOn] at hpieces ⊢
    rw [List.splitOnP_cons_eq_if_modifyHead, hpieces]
    rfl
  rw [split, split, String.toList_ofList, String.toList_ofList, hcons, hpieces, List.map_cons,
    List.map_cons, List.map_cons, List.map_cons, trimSpace_blank]

/-- The pieces of joined items, trimmed, are the items. -/
lemma map_trimSpace_split_join {items : List String} (h : Clean items) (hne : items ≠ [])
    (hcomma : ∀ item ∈ items, ',' ∉ item.toList) :
    (split (join items)).map trimSpace = items := by
  change (split (String.ofList (joinChars items))).map trimSpace = items
  induction items with
  | nil => exact absurd rfl hne
  | cons item items ih =>
    have hfree : ',' ∉ item.toList := hcomma item List.mem_cons_self
    have htrim : trimSpace item = item := h.trimmed item List.mem_cons_self
    cases items with
    | nil =>
      rw [joinChars, List.map_singleton, List.intercalate_singleton, split_singleton hfree,
        List.map_singleton, String.ofList_toList, htrim]
    | cons item' items =>
      have ih := ih h.of_cons (List.cons_ne_nil _ _)
        fun t ht => hcomma t (List.mem_cons_of_mem _ ht)
      rw [joinChars_cons_cons, split_append hfree, List.map_cons, String.ofList_toList, htrim,
        split_blank, ih]

lemma joinChars_ne_nil {items : List String} (h : Clean items) (hne : items ≠ []) :
    joinChars items ≠ [] := by
  obtain ⟨item, items, rfl⟩ := List.exists_cons_of_ne_nil hne
  have hitem := h.ne_empty item List.mem_cons_self
  cases items with
  | nil => simpa [joinChars] using hitem
  | cons t ts => rw [joinChars_cons_cons]; simp

lemma join_ne_empty {items : List String} (h : Clean items) (hne : items ≠ []) :
    join items ≠ "" := by
  intro hjoin
  apply joinChars_ne_nil h hne
  rw [joinChars, ← String.toList_ofList (l := List.intercalate _ _)]
  exact congrArg String.toList hjoin

/-- Joined items have no white space at their ends. -/
lemma trimSpace_join {items : List String} (h : Clean items) :
    trimSpace (join items) = join items := by
  rw [trimSpace_eq_self_iff, trimChars_eq_self_iff]
  change (∀ c ∈ (String.ofList (joinChars items)).toList.head?, isSpace c = false) ∧
    ∀ c ∈ (String.ofList (joinChars items)).toList.getLast?, isSpace c = false
  rw [String.toList_ofList]
  induction items with
  | nil => exact ⟨by simp [joinChars], by simp [joinChars]⟩
  | cons item items ih =>
    have hends := trimChars_eq_self_iff.mp
      (trimSpace_eq_self_iff.mp (h.trimmed item List.mem_cons_self))
    have hne : item.toList ≠ [] := by
      simpa using h.ne_empty item List.mem_cons_self
    cases items with
    | nil =>
      rw [joinChars, List.map_singleton, List.intercalate_singleton]
      exact hends
    | cons item' items =>
      have ih := (ih h.of_cons).2
      have hne' := joinChars_ne_nil h.of_cons (List.cons_ne_nil _ _)
      rw [joinChars_cons_cons]
      refine ⟨?_, ?_⟩
      · rw [List.head?_append_of_ne_nil _ hne]
        exact hends.1
      · obtain ⟨c, cs, hcs⟩ := List.exists_cons_of_ne_nil hne'
        rw [List.getLast?_append_cons, List.getLast?_cons_cons, hcs, List.getLast?_cons_cons, ← hcs]
        exact ih

end Lib.Items
