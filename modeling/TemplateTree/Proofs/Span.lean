import TemplateTree.Span

namespace TemplateTree

namespace Span

private theorem max_eq_ite (a b : UInt64) : max a b = if a ≤ b then b else a := rfl

private theorem eq_zero_of_max_eq_zero {a b : UInt64} (h : max a b = 0) : a = 0 ∧ b = 0 := by
  rw [max_eq_ite] at h
  grind [UInt64.le_iff_toNat_le, UInt64.toNat_inj]

theorem eq_unknown_iff {span : Span} : span = unknown ↔ span.line = 0 ∧ span.start = 0 ∧ span.stop = 0 := by
  cases span
  simp [unknown]

/-- Two known spans have a union that reaches from the first start to the last end. -/
theorem union_of_known {a b : Span} (ha : a ≠ unknown) (hb : b ≠ unknown) :
    a.union b =
      ⟨if a.start ≤ b.start then a.line else b.line, if a.start ≤ b.start then a.start else b.start,
        max a.stop b.stop⟩ := by
  simp only [union, isUnknown_iff, ha, hb, if_false]
  split <;> rfl

/-- The union of two spans is unknown only if both are: if it is, then the one that starts first has the line
    and the start of the unknown span, and neither ends later. -/
@[simp]
theorem union_eq_unknown_iff {a b : Span} : a.union b = unknown ↔ a = unknown ∧ b = unknown := by
  by_cases ha : a = unknown
  · simp [ha]
  by_cases hb : b = unknown
  · simp [hb]
  simp only [ha, false_and, iff_false]
  rw [union_of_known ha hb, eq_unknown_iff]
  rintro ⟨hline, hstart, hstop⟩
  obtain ⟨hastop, hbstop⟩ := eq_zero_of_max_eq_zero hstop
  by_cases hle : a.start ≤ b.start
  · simp only [hle, if_true] at hline hstart
    exact ha (eq_unknown_iff.2 ⟨hline, hstart, hastop⟩)
  · simp only [hle, if_false] at hline hstart
    exact hb (eq_unknown_iff.2 ⟨hline, hstart, hbstop⟩)

theorem union_assoc (a b c : Span) : (a.union b).union c = a.union (b.union c) := by
  by_cases ha : a = unknown
  · simp [ha]
  by_cases hb : b = unknown
  · simp [hb]
  by_cases hc : c = unknown
  · simp [hc]
  have hab : a.union b ≠ unknown := by simp [ha]
  have hbc : b.union c ≠ unknown := by simp [hb]
  rw [union_of_known hab hc, union_of_known ha hbc, union_of_known ha hb, union_of_known hb hc]
  grind [max_eq_ite]

/-- The order of two spans matters exactly where they start together on different lines. -/
theorem union_comm_iff {a b : Span} :
    a.union b = b.union a ↔ (a ≠ unknown → b ≠ unknown → a.start = b.start → a.line = b.line) := by
  by_cases ha : a = unknown
  · simp [ha]
  by_cases hb : b = unknown
  · simp [hb]
  rw [union_of_known ha hb, union_of_known hb ha]
  constructor
  · intro h _ _ hstart
    have hline := congrArg line h
    simpa [hstart] using hline
  · intro h
    have hline := h ha hb
    grind [max_eq_ite]

instance : Std.Associative union := ⟨union_assoc⟩

/-- The outer span starts no later and ends no earlier than the inner one. -/
structure Covers (outer inner : Span) : Prop where
  start_le : outer.start ≤ inner.start
  stop_le : inner.stop ≤ outer.stop

theorem Covers.refl (span : Span) : span.Covers span := ⟨UInt64.le_refl _, UInt64.le_refl _⟩

theorem Covers.trans {a b c : Span} (hab : a.Covers b) (hbc : b.Covers c) : a.Covers c :=
  ⟨UInt64.le_trans hab.start_le hbc.start_le, UInt64.le_trans hbc.stop_le hab.stop_le⟩

theorem union_covers_left {a : Span} (ha : a ≠ unknown) (b : Span) : (a.union b).Covers a := by
  by_cases hb : b = unknown
  · rw [hb, union_unknown]
    exact .refl a
  · rw [union_of_known ha hb]
    constructor <;> grind [max_eq_ite]

theorem union_covers_right (a : Span) {b : Span} (hb : b ≠ unknown) : (a.union b).Covers b := by
  by_cases ha : a = unknown
  · rw [ha, unknown_union]
    exact .refl b
  · rw [union_of_known ha hb]
    constructor <;> grind [max_eq_ite]

/-- The span starts at the least start and ends at the greatest end of the known spans of a list. -/
structure Hull (span : Span) (spans : List Span) : Prop where
  covers : ∀ s ∈ spans, s ≠ unknown → span.Covers s
  start_mem : ∃ s ∈ spans, s ≠ unknown ∧ s.start = span.start
  stop_mem : ∃ s ∈ spans, s ≠ unknown ∧ s.stop = span.stop

namespace Hull

variable {a b : Span} {as bs : List Span}

theorem singleton (ha : a ≠ unknown) : a.Hull [a] where
  covers _ hs _ := List.mem_singleton.1 hs ▸ .refl a
  start_mem := ⟨a, List.mem_singleton_self a, ha, rfl⟩
  stop_mem := ⟨a, List.mem_singleton_self a, ha, rfl⟩

/-- Only the known spans count. -/
theorem of_known (h : a.Hull as) (hknown : ∀ s, s ≠ unknown → (s ∈ as ↔ s ∈ bs)) : a.Hull bs where
  covers s hs hs' := h.covers s ((hknown s hs').2 hs) hs'
  start_mem := by
    obtain ⟨s, hs, hs', hstart⟩ := h.start_mem
    exact ⟨s, (hknown s hs').1 hs, hs', hstart⟩
  stop_mem := by
    obtain ⟨s, hs, hs', hstop⟩ := h.stop_mem
    exact ⟨s, (hknown s hs').1 hs, hs', hstop⟩

theorem union (ha : a ≠ unknown) (hb : b ≠ unknown) (has : a.Hull as) (hbs : b.Hull bs) :
    (a.union b).Hull (as ++ bs) where
  covers s hs hs' := by
    obtain hs | hs := List.mem_append.1 hs
    · exact (union_covers_left ha b).trans (has.covers s hs hs')
    · exact (union_covers_right a hb).trans (hbs.covers s hs hs')
  start_mem := by
    obtain ⟨s, hs, hs', hstart⟩ := has.start_mem
    obtain ⟨t, ht, ht', hstart'⟩ := hbs.start_mem
    rw [union_of_known ha hb]
    by_cases hle : a.start ≤ b.start
    · exact ⟨s, List.mem_append_left bs hs, hs', by simp [hle, hstart]⟩
    · exact ⟨t, List.mem_append_right as ht, ht', by simp [hle, hstart']⟩
  stop_mem := by
    obtain ⟨s, hs, hs', hstop⟩ := has.stop_mem
    obtain ⟨t, ht, ht', hstop'⟩ := hbs.stop_mem
    rw [union_of_known ha hb]
    by_cases hle : a.stop ≤ b.stop
    · exact ⟨t, List.mem_append_right as ht, ht', by simp [max_eq_ite, hle, hstop']⟩
    · exact ⟨s, List.mem_append_left bs hs, hs', by simp [max_eq_ite, hle, hstop]⟩

end Hull

@[simp]
theorem join_nil : join [] = unknown := rfl

@[simp]
theorem join_cons (s : Span) (rest : List Span) : join (s :: rest) = s.union (join rest) := by
  rw [join, List.foldl_cons, unknown_union, ← union_unknown s, List.foldl_assoc, union_unknown, join]

theorem join_eq_unknown_iff {spans : List Span} : join spans = unknown ↔ ∀ s ∈ spans, s = unknown := by
  induction spans with
  | nil => simp
  | cons s rest ih => simp [ih]

theorem hull_join {spans : List Span} (h : ∃ s ∈ spans, s ≠ unknown) : (join spans).Hull spans := by
  induction spans with
  | nil => simp at h
  | cons s rest ih =>
    rw [join_cons]
    by_cases hs : s = unknown
    · rw [hs, unknown_union]
      refine (ih ?_).of_known fun t ht => by simp [ht]
      simpa [hs] using h
    by_cases hrest : join rest = unknown
    · rw [hrest, union_unknown]
      refine (Hull.singleton hs).of_known fun t ht => ?_
      have hnot : t ∉ rest := fun hmem => ht (join_eq_unknown_iff.1 hrest t hmem)
      simp [hnot]
    · have hknown : ∃ t ∈ rest, t ≠ unknown := by simpa [join_eq_unknown_iff] using hrest
      exact (Hull.singleton hs).union hs hrest (ih hknown)

/-- The order of a list of spans does not matter where known spans that start together are on one line. -/
theorem join_eq_of_perm {as bs : List Span} (hperm : as.Perm bs)
    (hline : ∀ a ∈ as, ∀ b ∈ as, a ≠ unknown → b ≠ unknown → a.start = b.start → a.line = b.line) :
    join as = join bs := by
  refine hperm.foldl_eq' (fun a ha b hb joined => ?_) unknown
  calc (joined.union a).union b
      = joined.union (a.union b) := union_assoc joined a b
    _ = joined.union (b.union a) := by rw [union_comm_iff.2 (hline a ha b hb)]
    _ = (joined.union b).union a := (union_assoc joined b a).symm

end Span

end TemplateTree
