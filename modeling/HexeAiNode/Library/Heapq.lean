import Mathlib.Data.List.Sort

/-!
# Binary heaps in a list

The algorithms of Python's `heapq` on a list: the children of position `p` are `2 * p + 1` and
`2 * p + 2`, and a list is a heap when no entry is smaller than its parent.

Both sifts carry an entry `x` that is taken out of the list and leave a *hole* behind: a position whose
content no longer counts.  `siftdown` moves the hole towards the root until `x` fits, `siftup` first
moves it all the way down to a leaf, always pulling up the smaller child, and then lets `siftdown`
place `x`.  `HoleOrdered` is what the moves keep, `HoleOrdered.fill` is what placing `x` turns it into.

A loop gets the length of the list as fuel, which is more than it uses.

The operations are described by two facts each: what the list contains (`push_perm`, `pop_perm`,
`heapify_perm`), and that it is a heap (`push_ordered`, `pop_ordered`, `heapify_ordered`).  With the
root at most every entry (`root_le`), popping until nothing is left sorts the heap
(`drain_eq_of_perm`).
-/

namespace Heapq

variable {α : Type*} [LinearOrder α]

/-! ## The operations -/

/-- `_siftdown`: place `x`, which belongs at `pos`, at or above it, but not above `start`. -/
def siftdown : ℕ → List α → ℕ → ℕ → α → List α
  | 0, heap, _, pos, x => heap.set pos x
  | fuel + 1, heap, start, pos, x =>
    if start < pos then
      match heap[(pos - 1) / 2]? with
      | some parent =>
        if x < parent then siftdown fuel (heap.set pos parent) start ((pos - 1) / 2) x
        else heap.set pos x
      | none => heap.set pos x
    else heap.set pos x

/-- The child of `pos` that is pulled up: the right one unless the left one is smaller. -/
def smallerChild (heap : List α) (pos : ℕ) : ℕ :=
  match heap[2 * pos + 1]?, heap[2 * pos + 2]? with
  | some left, some right => if left < right then 2 * pos + 1 else 2 * pos + 2
  | _, _ => 2 * pos + 1

/-- The way down of `_siftup`: the list and the position of the hole when it has reached a leaf. -/
def sink : ℕ → List α → ℕ → List α × ℕ
  | 0, heap, pos => (heap, pos)
  | fuel + 1, heap, pos =>
    match heap[smallerChild heap pos]? with
    | some child => sink fuel (heap.set pos child) (smallerChild heap pos)
    | none => (heap, pos)

/-- `_siftup`: place the entry at `pos` in the subtree below it. -/
def siftup (heap : List α) (pos : ℕ) : List α :=
  match heap[pos]? with
  | none => heap
  | some x =>
    let (sunk, leaf) := sink heap.length heap pos
    siftdown heap.length sunk pos leaf x

/-- `heappush`. -/
def push (heap : List α) (x : α) : List α :=
  siftdown (heap.length + 1) (heap ++ [x]) 0 heap.length x

/-- `heappop`: the smallest entry and the rest. -/
def pop (heap : List α) : Option (α × List α) :=
  match heap.getLast? with
  | none => none
  | some last =>
    match heap.dropLast with
    | [] => some (last, [])
    | top :: rest => some (top, siftup (last :: rest) 0)

/-- The loop of `heapify`, from the position before `n` down to the root. -/
def heapifyFrom : ℕ → List α → List α
  | 0, heap => heap
  | n + 1, heap => heapifyFrom n (siftup heap n)

/-- `heapify`. -/
def heapify (heap : List α) : List α := heapifyFrom (heap.length / 2) heap

/-- The entries in the order in which they are popped. -/
def drain : ℕ → List α → List α
  | 0, _ => []
  | fuel + 1, heap =>
    match pop heap with
    | none => []
    | some (x, rest) => x :: drain fuel rest

/-! ## Order -/

/-- The entry at `i`, if there is one, is at most the one at `j`. -/
def LeAt (heap : List α) (i j : ℕ) : Prop := ∀ a ∈ heap[i]?, ∀ b ∈ heap[j]?, a ≤ b

/-- `c` is a child of `p`. -/
def Child (c p : ℕ) : Prop := c = 2 * p + 1 ∨ c = 2 * p + 2

/-- Every parent from `start` on is at most its children. -/
def OrderedFrom (start : ℕ) (heap : List α) : Prop :=
  ∀ c p, Child c p → start ≤ p → LeAt heap p c

/-- The heap order. -/
def Ordered (heap : List α) : Prop := OrderedFrom 0 heap

/-- The positions of the subtree below `start`. -/
inductive Within (start : ℕ) : ℕ → Prop where
  | root : Within start start
  | child {c p : ℕ} (hp : Within start p) (hc : Child c p) : Within start c

/-- The pairs from `start` on that do not touch the hole are in order, and so are the parent and the
children of the hole. -/
structure HoleOrdered (start : ℕ) (heap : List α) (hole : ℕ) : Prop where
  off : ∀ c p, Child c p → start ≤ p → c ≠ hole → p ≠ hole → LeAt heap p c
  across : ∀ p c, Child hole p → start ≤ p → Child c hole → LeAt heap p c

/-- `x` is at most the children of the hole. -/
def Below (heap : List α) (hole : ℕ) (x : α) : Prop :=
  ∀ c, Child c hole → ∀ b ∈ heap[c]?, x ≤ b

/-- `x` is at least the parent of the hole, unless the hole is at the start. -/
def Above (start : ℕ) (heap : List α) (hole : ℕ) (x : α) : Prop :=
  ∀ p, Child hole p → start ≤ p → ∀ a ∈ heap[p]?, a ≤ x

theorem child_lt {c p : ℕ} (h : Child c p) : p < c := by
  unfold Child at h
  omega

theorem child_parent {c : ℕ} (h : 0 < c) : Child c ((c - 1) / 2) := by
  unfold Child
  omega

theorem parent_unique {c p q : ℕ} (hp : Child c p) (hq : Child c q) : p = q := by
  unfold Child at hp hq
  omega

theorem Within.start_le {start i : ℕ} (h : Within start i) : start ≤ i := by
  induction h with
  | root => exact le_refl start
  | child _ hc ih =>
    have hlt := child_lt hc
    omega

/-- The parent of a position below the start is in the subtree. -/
theorem Within.parent {start i p : ℕ} (h : Within start i) (hi : start < i) (hp : Child i p) :
    Within start p := by
  cases h with
  | root => omega
  | child hq hc =>
    obtain rfl := parent_unique hp hc
    exact hq

section

variable {heap : List α} {start hole : ℕ} {x : α}

omit [LinearOrder α] in
theorem mem_set_of_ne {i : ℕ} (hi : hole ≠ i) {a : α} :
    a ∈ (heap.set hole x)[i]? ↔ a ∈ heap[i]? := by
  rw [List.getElem?_set_ne hi]

omit [LinearOrder α] in
theorem eq_of_mem_set_self {a : α} (h : a ∈ (heap.set hole x)[hole]?) : a = x := by
  rw [List.getElem?_set, if_pos rfl] at h
  split at h
  · exact (Option.some.inj h).symm
  · cases h

/-- Filling the hole with an entry that fits. -/
theorem HoleOrdered.fill (h : HoleOrdered start heap hole) (habove : Above start heap hole x)
    (hbelow : Below heap hole x) : OrderedFrom start (heap.set hole x) := by
  intro c p hchild hstart a ha b hb
  have hlt := child_lt hchild
  by_cases hc : hole = c
  · subst hc
    rw [mem_set_of_ne (by omega)] at ha
    rw [eq_of_mem_set_self hb]
    exact habove p hchild hstart a ha
  · rw [mem_set_of_ne hc] at hb
    by_cases hp : hole = p
    · subst hp
      rw [eq_of_mem_set_self ha]
      exact hbelow c hchild b hb
    · rw [mem_set_of_ne hp] at ha
      exact h.off c p hchild hstart (Ne.symm hc) (Ne.symm hp) a ha b hb

/-- A list that is ordered after the start has a hole at the start. -/
theorem OrderedFrom.holeOrdered (h : OrderedFrom (start + 1) heap) :
    HoleOrdered start heap start where
  off := by
    intro c p hchild hstart _ hp
    exact h c p hchild (by omega)
  across := by
    intro p c hchild hstart _
    have hlt := child_lt hchild
    omega

/-! ## The way up -/

/-- The hole moves to its parent, which comes down. -/
theorem HoleOrdered.up (h : HoleOrdered start heap hole) {p : ℕ} {parent : α}
    (hp : Child hole p) (hstart : start ≤ p) (hget : heap[p]? = some parent) :
    HoleOrdered start (heap.set hole parent) p where
  off := by
    intro c q hchild hq hc hqp a ha b hb
    have hlt := child_lt hchild
    by_cases hch : hole = c
    · subst hch
      exact absurd (parent_unique hchild hp) hqp
    · rw [mem_set_of_ne hch] at hb
      by_cases hqh : hole = q
      · subst hqh
        rw [eq_of_mem_set_self ha]
        exact h.across p c hp hstart hchild parent hget b hb
      · rw [mem_set_of_ne hqh] at ha
        exact h.off c q hchild hq (Ne.symm hch) (Ne.symm hqh) a ha b hb
  across := by
    intro q c hchild hq hc a ha b hb
    have hlt := child_lt hchild
    have hlt' := child_lt hp
    rw [mem_set_of_ne (by omega)] at ha
    have hqp : a ≤ parent :=
      h.off p q hchild hq (by omega) (by omega) a ha parent hget
    by_cases hch : hole = c
    · subst hch
      rw [eq_of_mem_set_self hb]
      exact hqp
    · rw [mem_set_of_ne hch] at hb
      exact hqp.trans (h.off c p hc hstart (Ne.symm hch) (by omega) parent hget b hb)

/-- An entry smaller than the parent is at most the children of the parent's position. -/
theorem Below.up (h : HoleOrdered start heap hole) {p : ℕ} {parent : α} (hp : Child hole p)
    (hstart : start ≤ p) (hget : heap[p]? = some parent) (hx : x < parent) :
    Below (heap.set hole parent) p x := by
  intro c hchild b hb
  have hlt := child_lt hp
  by_cases hch : hole = c
  · subst hch
    rw [eq_of_mem_set_self hb]
    exact hx.le
  · rw [mem_set_of_ne hch] at hb
    exact hx.le.trans (h.off c p hchild hstart (Ne.symm hch) (by omega) parent hget b hb)

/-- `siftdown` orders the list from the start on. -/
theorem siftdown_ordered {fuel : ℕ} (hwithin : Within start hole)
    (h : HoleOrdered start heap hole) (hbelow : Below heap hole x) (hfuel : hole < fuel) :
    OrderedFrom start (siftdown fuel heap start hole x) := by
  induction fuel generalizing heap hole with
  | zero => omega
  | succ fuel ih =>
    rw [siftdown]
    split
    · next hlt =>
      have hchild : Child hole ((hole - 1) / 2) := child_parent (by omega)
      have hparent := hwithin.parent hlt hchild
      have hup := child_lt hchild
      split
      · next parent hget =>
        split
        · next hx =>
          exact ih hparent (h.up hchild hparent.start_le hget)
            (Below.up h hchild hparent.start_le hget hx) (by omega)
        · next hx =>
          refine h.fill ?_ hbelow
          intro p hp _ a ha
          rw [parent_unique hp hchild, hget] at ha
          obtain rfl := Option.some.inj ha
          exact not_lt.mp hx
      · next hget =>
        refine h.fill ?_ hbelow
        intro p hp _ a ha
        rw [parent_unique hp hchild, hget] at ha
        cases ha
    · next hlt =>
      refine h.fill ?_ hbelow
      intro p hp hstart
      have hup := child_lt hp
      omega

/-! ## The way down -/

theorem child_smallerChild (heap : List α) (pos : ℕ) : Child (smallerChild heap pos) pos := by
  unfold smallerChild Child
  split
  · split
    · exact Or.inl rfl
    · exact Or.inr rfl
  · exact Or.inl rfl

/-- The child that is pulled up is at most its sibling. -/
theorem smallerChild_le {pos c : ℕ} (hc : Child c pos) : LeAt heap (smallerChild heap pos) c := by
  intro a ha b hb
  unfold smallerChild at ha
  rcases hleft : heap[2 * pos + 1]? with _ | left
  · rw [hleft] at ha
    dsimp only at ha
    rw [hleft] at ha
    cases ha
  rcases hright : heap[2 * pos + 2]? with _ | right
  · rw [hleft, hright] at ha
    dsimp only at ha
    rcases hc with rfl | rfl
    · exact (Option.some.inj (ha.symm.trans hb)).le
    · rw [hright] at hb
      cases hb
  rw [hleft, hright] at ha
  dsimp only at ha
  by_cases hlt : left < right
  · rw [if_pos hlt, hleft] at ha
    obtain rfl := Option.some.inj ha
    rcases hc with rfl | rfl
    · rw [hleft] at hb
      exact (Option.some.inj hb).le
    · rw [hright] at hb
      obtain rfl := Option.some.inj hb
      exact hlt.le
  · rw [if_neg hlt, hright] at ha
    obtain rfl := Option.some.inj ha
    rcases hc with rfl | rfl
    · rw [hleft] at hb
      obtain rfl := Option.some.inj hb
      exact not_lt.mp hlt
    · rw [hright] at hb
      exact (Option.some.inj hb).le

/-- Without the smaller child there is no child. -/
theorem no_child {pos c : ℕ} (h : heap[smallerChild heap pos]? = none) (hc : Child c pos) :
    heap[c]? = none := by
  rw [List.getElem?_eq_none_iff] at h ⊢
  have hleft : heap.length ≤ 2 * pos + 1 := by
    unfold smallerChild at h
    split at h
    · next left right hleft hright =>
      have := (List.getElem?_eq_some_iff.mp hleft).1
      have := (List.getElem?_eq_some_iff.mp hright).1
      split at h <;> omega
    · exact h
  rcases hc with rfl | rfl <;> omega

/-- The hole moves to the smaller child, which comes up. -/
theorem HoleOrdered.down (h : HoleOrdered start heap hole) (hstart : start ≤ hole) {child : α}
    (hget : heap[smallerChild heap hole]? = some child) :
    HoleOrdered start (heap.set hole child) (smallerChild heap hole) where
  off := by
    intro c p hchild hp hc hpc a ha b hb
    have hlt := child_lt hchild
    by_cases hch : hole = c
    · subst hch
      rw [eq_of_mem_set_self hb]
      rw [mem_set_of_ne (by omega)] at ha
      exact h.across p _ hchild hp (child_smallerChild heap hole) a ha child hget
    · rw [mem_set_of_ne hch] at hb
      by_cases hph : hole = p
      · subst hph
        rw [eq_of_mem_set_self ha]
        exact smallerChild_le hchild child hget b hb
      · rw [mem_set_of_ne hph] at ha
        exact h.off c p hchild hp (Ne.symm hch) (Ne.symm hph) a ha b hb
  across := by
    intro p c hchild hp hc a ha b hb
    have hsmaller := child_smallerChild heap hole
    obtain rfl := parent_unique hchild hsmaller
    have hlt := child_lt hsmaller
    have hlt' := child_lt hc
    rw [eq_of_mem_set_self ha]
    rw [mem_set_of_ne (by omega)] at hb
    exact h.off c _ hc (by omega) (by omega) (by omega) child hget b hb

/-- `sink` ends with a hole at a leaf of the subtree. -/
theorem sink_spec {fuel : ℕ} (hwithin : Within start hole) (h : HoleOrdered start heap hole)
    (hfuel : heap.length ≤ hole + fuel) :
    Within start (sink fuel heap hole).2 ∧
      HoleOrdered start (sink fuel heap hole).1 (sink fuel heap hole).2 ∧
      ∀ c, Child c (sink fuel heap hole).2 → (sink fuel heap hole).1[c]? = none := by
  induction fuel generalizing heap hole with
  | zero =>
    refine ⟨hwithin, h, fun c hc => ?_⟩
    have hlt : hole < c := child_lt hc
    show heap[c]? = none
    rw [List.getElem?_eq_none_iff]
    omega
  | succ fuel ih =>
    rw [sink]
    split
    · next child hget =>
      have hchild := child_smallerChild heap hole
      have hlt := child_lt hchild
      refine ih (hwithin.child hchild) (h.down hwithin.start_le hget) ?_
      rw [List.length_set]
      omega
    · next hget => exact ⟨hwithin, h, fun c hc => no_child hget hc⟩

theorem length_sink (fuel : ℕ) (heap : List α) (pos : ℕ) :
    (sink fuel heap pos).1.length = heap.length := by
  induction fuel generalizing heap pos with
  | zero => rfl
  | succ fuel ih =>
    rw [sink]
    split
    · rw [ih, List.length_set]
    · rfl

theorem sink_lt {fuel : ℕ} {pos : ℕ} (h : pos < heap.length) :
    (sink fuel heap pos).2 < heap.length := by
  induction fuel generalizing heap pos with
  | zero => exact h
  | succ fuel ih =>
    rw [sink]
    split
    · next child hget =>
      have hlt := (List.getElem?_eq_some_iff.mp hget).1
      have := @ih (heap.set pos child) (smallerChild heap pos) (by rwa [List.length_set])
      rwa [List.length_set] at this
    · exact h

/-- `siftup` orders the list from its position on, when it is ordered after it. -/
theorem siftup_ordered {pos : ℕ} (h : OrderedFrom (pos + 1) heap) :
    OrderedFrom pos (siftup heap pos) := by
  unfold siftup
  split
  · next hnone =>
    rw [List.getElem?_eq_none_iff] at hnone
    intro c p hchild hp a ha
    have hlt := (List.getElem?_eq_some_iff.mp ha).1
    omega
  · next x hx =>
    have hpos := (List.getElem?_eq_some_iff.mp hx).1
    obtain ⟨hwithin, hordered, hleaf⟩ :=
      @sink_spec α _ heap pos pos heap.length Within.root h.holeOrdered (by omega)
    refine siftdown_ordered hwithin hordered ?_ (sink_lt hpos)
    intro c hc b hb
    rw [hleaf c hc] at hb
    cases hb

/-! ## Contents -/

omit [LinearOrder α] in
/-- The hole moves, the contents stay. -/
theorem move_perm {i : ℕ} {y : α} (hne : hole ≠ i) (hhole : hole < heap.length)
    (hget : heap[i]? = some y) :
    ((heap.set hole y).set i x).Perm (heap.set hole x) := by
  obtain ⟨hi, hy⟩ := List.getElem?_eq_some_iff.mp hget
  have hswap := @List.set_set_perm α (heap.set hole x) hole i (by rwa [List.length_set])
    (by rwa [List.length_set])
  rw [List.getElem_set_of_ne hne, List.getElem_set_self, List.set_set, hy] at hswap
  exact hswap

theorem siftdown_perm {fuel pos : ℕ} (hpos : pos < heap.length) :
    (siftdown fuel heap start pos x).Perm (heap.set pos x) := by
  induction fuel generalizing heap pos with
  | zero => exact List.Perm.refl _
  | succ fuel ih =>
    rw [siftdown]
    split
    · next hlt =>
      have hup := child_lt (child_parent (c := pos) (by omega))
      split
      · next parent hget =>
        split
        · refine (@ih (heap.set pos parent) ((pos - 1) / 2) ?_).trans
            (move_perm (by omega) hpos hget)
          rw [List.length_set]
          omega
        · exact List.Perm.refl _
      · exact List.Perm.refl _
    · exact List.Perm.refl _

theorem sink_perm {fuel pos : ℕ} (hpos : pos < heap.length) (x : α) :
    ((sink fuel heap pos).1.set (sink fuel heap pos).2 x).Perm (heap.set pos x) := by
  induction fuel generalizing heap pos with
  | zero => exact List.Perm.refl _
  | succ fuel ih =>
    rw [sink]
    split
    · next child hget =>
      have hlt := child_lt (child_smallerChild heap pos)
      have hin := (List.getElem?_eq_some_iff.mp hget).1
      refine (@ih (heap.set pos child) _ ?_).trans (move_perm (by omega) hpos hget)
      rwa [List.length_set]
    · exact List.Perm.refl _

theorem siftup_perm (heap : List α) (pos : ℕ) : (siftup heap pos).Perm heap := by
  unfold siftup
  split
  · exact List.Perm.refl _
  · next x hx =>
    obtain ⟨hpos, hx⟩ := List.getElem?_eq_some_iff.mp hx
    have hsink := @sink_perm α _ heap heap.length pos hpos x
    have hsift := @siftdown_perm α _ (sink heap.length heap pos).1 pos x heap.length
      (sink heap.length heap pos).2 (by
        rw [length_sink]
        exact sink_lt hpos)
    refine (hsift.trans hsink).trans ?_
    rw [← hx, List.set_getElem_self]

end

/-! ## The operations as a whole -/

/-- Pushing adds the entry. -/
theorem push_perm (heap : List α) (x : α) : (push heap x).Perm (x :: heap) := by
  have hsift := @siftdown_perm α _ (heap ++ [x]) 0 x (heap.length + 1) heap.length (by simp)
  refine hsift.trans ?_
  rw [List.set_append_right _ _ (le_refl _), Nat.sub_self, List.set_cons_zero]
  exact List.perm_append_singleton x heap

/-- Pushing keeps the order. -/
theorem push_ordered {heap : List α} (h : Ordered heap) (x : α) : Ordered (push heap x) := by
  have hwithin : ∀ i, Within 0 i := by
    intro i
    induction i using Nat.strong_induction_on with
    | _ i ih =>
      rcases Nat.eq_zero_or_pos i with rfl | hi
      · exact Within.root
      · exact (ih _ (child_lt (child_parent hi))).child (child_parent hi)
  have hlast : ∀ c, heap.length < c → (heap ++ [x])[c]? = none := by
    intro c hc
    rw [List.getElem?_eq_none_iff, List.length_append, List.length_singleton]
    omega
  refine siftdown_ordered (hwithin _) ⟨?_, ?_⟩ ?_ (Nat.lt_succ_self _)
  · intro c p hchild _ hc hp a ha b hb
    have hlt := child_lt hchild
    have hcl : c < heap.length := by
      by_contra hge
      rw [hlast c (by omega)] at hb
      cases hb
    rw [List.getElem?_append_left (by omega)] at ha hb
    exact h c p hchild (Nat.zero_le _) a ha b hb
  · intro p c _ _ hc a _ b hb
    rw [hlast c (child_lt hc)] at hb
    cases hb
  · intro c hc b hb
    rw [hlast c (child_lt hc)] at hb
    cases hb

/-- The list after its last entry is moved to the front of the rest. -/
theorem pop_eq_some {heap rest : List α} {x : α} (h : pop heap = some (x, rest)) :
    (heap = [x] ∧ rest = []) ∨
      ∃ last tail, heap = x :: (tail ++ [last]) ∧ rest = siftup (last :: tail) 0 := by
  unfold pop at h
  split at h
  · cases h
  · next last hlast =>
    have hheap := List.dropLast_append_getLast? last hlast
    split at h
    · next hdrop =>
      rw [hdrop, List.nil_append] at hheap
      obtain ⟨rfl, rfl⟩ := Prod.mk.inj (Option.some.inj h)
      exact Or.inl ⟨hheap.symm, rfl⟩
    · next top tail hdrop =>
      rw [hdrop] at hheap
      obtain ⟨rfl, rfl⟩ := Prod.mk.inj (Option.some.inj h)
      exact Or.inr ⟨last, tail, hheap.symm, rfl⟩

theorem pop_eq_none {heap : List α} : pop heap = none ↔ heap = [] := by
  constructor
  · intro h
    unfold pop at h
    split at h
    · next hlast => exact List.getLast?_eq_none_iff.mp hlast
    · split at h <;> cases h
  · rintro rfl
    rfl

/-- Popping takes out the first entry of the list. -/
theorem head_of_pop {heap rest : List α} {x : α} (h : pop heap = some (x, rest)) :
    heap.head? = some x := by
  rcases pop_eq_some h with ⟨rfl, -⟩ | ⟨last, tail, rfl, -⟩ <;> rfl

/-- Popping takes out one entry. -/
theorem pop_perm {heap rest : List α} {x : α} (h : pop heap = some (x, rest)) :
    heap.Perm (x :: rest) := by
  rcases pop_eq_some h with ⟨rfl, rfl⟩ | ⟨last, tail, rfl, rfl⟩
  · exact List.Perm.refl _
  · refine List.Perm.cons x ?_
    exact (List.perm_append_singleton last tail).trans (siftup_perm _ 0).symm

/-- Popping keeps the order. -/
theorem pop_ordered {heap rest : List α} {x : α} (hheap : Ordered heap)
    (h : pop heap = some (x, rest)) : Ordered rest := by
  rcases pop_eq_some h with ⟨-, rfl⟩ | ⟨last, tail, rfl, rfl⟩
  · intro c p _ _ a ha
    cases ha
  · refine siftup_ordered ?_
    intro c p hchild hp a ha b hb
    have hlt := child_lt hchild
    have hget : ∀ i, 1 ≤ i → ∀ y, (last :: tail)[i]? = some y →
        (x :: (tail ++ [last]))[i]? = some y := by
      intro i hi y hy
      obtain ⟨i, rfl⟩ : ∃ j, i = j + 1 := ⟨i - 1, by omega⟩
      rw [List.getElem?_cons_succ] at hy ⊢
      rwa [List.getElem?_append_left (List.getElem?_eq_some_iff.mp hy).1]
    exact hheap c p hchild (Nat.zero_le _) a (hget p (by omega) a ha) b (hget c (by omega) b hb)

/-- The root is at most every entry. -/
theorem root_le {heap : List α} (h : Ordered heap) (i : ℕ) : LeAt heap 0 i := by
  induction i using Nat.strong_induction_on with
  | _ i ih =>
    intro a ha b hb
    rcases Nat.eq_zero_or_pos i with rfl | hi
    · exact (Option.some.inj (ha.symm.trans hb)).le
    · have hchild := child_parent hi
      have hlt := child_lt hchild
      have hin := (List.getElem?_eq_some_iff.mp hb).1
      have hparent : heap[(i - 1) / 2]? = some heap[(i - 1) / 2] := List.getElem?_eq_getElem _
      exact (ih _ hlt a ha _ hparent).trans (h i _ hchild (Nat.zero_le _) _ hparent b hb)

/-- The popped entry is the smallest. -/
theorem pop_le {heap rest : List α} {x : α} (hheap : Ordered heap)
    (h : pop heap = some (x, rest)) : ∀ y ∈ rest, x ≤ y := by
  intro y hy
  have hmem : y ∈ heap := (pop_perm h).mem_iff.mpr (List.mem_cons_of_mem _ hy)
  obtain ⟨i, hi⟩ := List.mem_iff_getElem?.mp hmem
  have hroot : heap[0]? = some x := by
    rw [← List.head?_eq_getElem?]
    exact head_of_pop h
  exact root_le hheap i x hroot y hi

theorem heapifyFrom_perm (n : ℕ) (heap : List α) : (heapifyFrom n heap).Perm heap := by
  induction n generalizing heap with
  | zero => exact List.Perm.refl _
  | succ n ih => exact (ih _).trans (siftup_perm heap n)

theorem heapifyFrom_ordered {n : ℕ} {heap : List α} (h : OrderedFrom n heap) :
    Ordered (heapifyFrom n heap) := by
  induction n generalizing heap with
  | zero => exact h
  | succ n ih => exact ih (siftup_ordered h)

/-- `heapify` keeps the contents. -/
theorem heapify_perm (heap : List α) : (heapify heap).Perm heap := heapifyFrom_perm _ heap

/-- `heapify` makes a heap. -/
theorem heapify_ordered (heap : List α) : Ordered (heapify heap) := by
  refine heapifyFrom_ordered ?_
  intro c p hchild hp a _ b hb
  have hin := (List.getElem?_eq_some_iff.mp hb).1
  unfold Child at hchild
  omega

/-! ## Popping everything -/

theorem drain_perm {fuel : ℕ} {heap : List α} (h : heap.length ≤ fuel) :
    (drain fuel heap).Perm heap := by
  induction fuel generalizing heap with
  | zero =>
    obtain rfl := List.length_eq_zero_iff.mp (Nat.le_zero.mp h)
    exact List.Perm.refl _
  | succ fuel ih =>
    rw [drain]
    rcases hpop : pop heap with _ | ⟨x, rest⟩
    · rw [pop_eq_none.mp hpop]
    · have hperm := pop_perm hpop
      have hlen := hperm.length_eq
      rw [List.length_cons] at hlen
      exact ((ih (by omega)).cons x).trans hperm.symm

theorem drain_sorted {fuel : ℕ} {heap : List α} (hheap : Ordered heap) (h : heap.length ≤ fuel) :
    (drain fuel heap).Pairwise (· ≤ ·) := by
  induction fuel generalizing heap with
  | zero => exact List.Pairwise.nil
  | succ fuel ih =>
    rw [drain]
    rcases hpop : pop heap with _ | ⟨x, rest⟩
    · exact List.Pairwise.nil
    · have hlen := (pop_perm hpop).length_eq
      rw [List.length_cons] at hlen
      refine List.pairwise_cons.mpr ⟨?_, ih (pop_ordered hheap hpop) (by omega)⟩
      intro y hy
      exact pop_le hheap hpop y ((drain_perm (by omega)).mem_iff.mp hy)

/-- **Popping sorts**: the order of popping depends on the contents only. -/
theorem drain_eq_of_perm {heap sorted : List α} (hheap : Ordered heap) (hperm : sorted.Perm heap)
    (hsorted : sorted.Pairwise (· ≤ ·)) : drain heap.length heap = sorted :=
  ((drain_perm (le_refl _)).trans hperm.symm).eq_of_pairwise' (drain_sorted hheap (le_refl _))
    hsorted

omit [LinearOrder α] in
/-- Lists of the same entries, which are told apart by a label, are equal when their labels are. -/
theorem eq_of_perm_of_map_eq {ι : Type*} {label : α → ι} {l l' : List α} (hperm : l.Perm l')
    (hdistinct : (l'.map label).Nodup) (h : l.map label = l'.map label) : l = l' := by
  refine List.ext_getElem hperm.length_eq fun i hi hi' => ?_
  have hlabel : label l[i] = label l'[i] := by
    have hget := congrArg (fun labels => labels[i]?) h
    simpa [hi, hi'] using hget
  have hmem : l[i] ∈ l' := hperm.mem_iff.mp (List.getElem_mem hi)
  exact List.inj_on_of_nodup_map hdistinct hmem (List.getElem_mem hi') hlabel

/-- **Entries under new keys** are popped in the old order if and only if every two of them compare as
before; the labels tell the entries apart. -/
theorem drain_map_eq_iff {ι : Type*} {label : α → ι} {f : α → α} {heap heap' : List α}
    (hheap : Ordered heap) (hheap' : Ordered heap') (hperm : (heap.map f).Perm heap')
    (hlabel : ∀ a, label (f a) = label a) (hdistinct : (heap.map label).Nodup) :
    (drain heap'.length heap').map label = (drain heap.length heap).map label ↔
      ∀ a ∈ heap, ∀ b ∈ heap, a ≤ b → f a ≤ f b := by
  have hdrain : (drain heap.length heap).Perm heap := drain_perm (le_refl _)
  have hsorted : (drain heap.length heap).Pairwise (· ≤ ·) := drain_sorted hheap (le_refl _)
  have hmap : ((drain heap.length heap).map f).Perm heap' := (hdrain.map f).trans hperm
  have hlabels : ((drain heap.length heap).map f).map label = (drain heap.length heap).map label := by
    rw [List.map_map]
    exact List.map_congr_left fun a _ => hlabel a
  rw [← hlabels]
  constructor
  · intro h
    have heq : drain heap'.length heap' = (drain heap.length heap).map f := by
      refine eq_of_perm_of_map_eq ((drain_perm (le_refl _)).trans hmap.symm) ?_ h
      rw [hlabels, (hdrain.map label).nodup_iff]
      exact hdistinct
    have hsorted' := drain_sorted hheap' (le_refl _)
    rw [heq, List.pairwise_map] at hsorted'
    -- of two entries the one that is popped first is the smaller one
    have hflip : (drain heap.length heap).Pairwise (flip fun a b => a ≤ b → f a ≤ f b) := by
      refine hsorted.imp fun {a b} hab hba => ?_
      rw [le_antisymm hab hba]
    have hkept : (drain heap.length heap).Pairwise fun a b => a ≤ b → f a ≤ f b := by
      refine hsorted'.imp ?_
      intro a b hab _
      exact hab
    intro a ha b hb
    exact List.Pairwise.forall_of_forall_of_flip (fun _ _ _ => le_refl _) hkept hflip
      (hdrain.mem_iff.mpr ha) (hdrain.mem_iff.mpr hb)
  · intro h
    rw [drain_eq_of_perm hheap' hmap]
    rw [List.pairwise_map]
    refine hsorted.imp_of_mem fun {a b} ha hb hab => ?_
    exact h a (hdrain.mem_iff.mp ha) b (hdrain.mem_iff.mp hb) hab

end Heapq
