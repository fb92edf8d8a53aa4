import QuizPreflight.Proofs.Markup.Nesting

/-!
# Places of elements

The place of an element below another is told by numbers, each of which counts the children of the
element before. Elements that are alike stand at different places. Those nested under a tag are
listed with their places in document order, each place once.
-/
namespace QuizPreflight.Markup.Element

/-- Document order: an element comes before all that is below it, and what is below one of its
children comes before what is below a later one. -/
def Precedes : List Nat → List Nat → Prop := List.Lex (· < ·)

/-- A chain of children with a tag leads to the element at a place. -/
inductive LeadsTo (tag : String) : Element → List Nat → Element → Prop
  | here (e : Element) : LeadsTo tag e [] e
  | child {e c x : Element} {i : Nat} {place : List Nat} (nth : e.children[i]? = some c)
      (named : c.tag = tag) (rest : LeadsTo tag c place x) : LeadsTo tag e (i :: place) x

/-- What is listed of each of some elements, with its place below their parent; the first of the
elements has the given number. -/
def eachPlaced (list : Element → List (List Nat × Element)) (number : Nat) :
    List Element → List (List Nat × Element)
  | [] => []
  | e :: es => (list e).map (fun v => (number :: v.1, v.2)) ++ eachPlaced list (number + 1) es

mutual

/-- An element with all that are nested in it under a tag, each with its place. -/
def placed (tag : String) : Element → List (List Nat × Element)
  | mk t attributes text children tail =>
    ([], mk t attributes text children tail) :: placedAmong tag 0 children

/-- The elements of a list that have a tag, with all that are nested in them. -/
def placedAmong (tag : String) (number : Nat) : List Element → List (List Nat × Element)
  | [] => []
  | e :: es => (if e.tag == tag then placed tag e else []).map (fun v => (number :: v.1, v.2)) ++
      placedAmong tag (number + 1) es

end

variable {list : Element → List (List Nat × Element)} {tag : String} {number : Nat}
  {place : List Nat} {e x : Element} {es : List Element}

lemma mem_eachPlaced : (place, x) ∈ eachPlaced list number es ↔
    ∃ i rest e, place = (number + i) :: rest ∧ es[i]? = some e ∧ (rest, x) ∈ list e := by
  induction es generalizing number with
  | nil => simp [eachPlaced]
  | cons e es ih =>
    rw [eachPlaced, List.mem_append, List.mem_map, ih]
    constructor
    · rintro (⟨⟨rest, y⟩, hv, heq⟩ | ⟨i, rest, d, rfl, hd, hv⟩)
      · obtain ⟨rfl, rfl⟩ := Prod.mk.inj heq
        exact ⟨0, rest, e, rfl, rfl, hv⟩
      · exact ⟨i + 1, rest, d, by rw [Nat.add_assoc, Nat.add_comm 1 i], hd, hv⟩
    · rintro ⟨i, rest, d, rfl, hd, hv⟩
      cases i with
      | zero =>
        obtain rfl : e = d := Option.some.inj hd
        exact .inl ⟨(rest, x), hv, rfl⟩
      | succ i => exact .inr ⟨i, rest, d, by rw [Nat.add_assoc, Nat.add_comm 1 i], hd, hv⟩

lemma pairwise_eachPlaced (h : ∀ e ∈ es, (list e).Pairwise fun v w => Precedes v.1 w.1) :
    (eachPlaced list number es).Pairwise fun v w => Precedes v.1 w.1 := by
  induction es generalizing number with
  | nil => exact List.Pairwise.nil
  | cons e es ih =>
    obtain ⟨hfirst, hrest⟩ := List.forall_mem_cons.mp h
    rw [eachPlaced, List.pairwise_append, List.pairwise_map]
    refine ⟨hfirst.imp .cons, ih hrest, ?_⟩
    rintro v hv ⟨place, y⟩ hw
    obtain ⟨v, -, rfl⟩ := List.mem_map.mp hv
    obtain ⟨i, rest, -, rfl, -⟩ := mem_eachPlaced.mp hw
    exact .rel (by omega)

lemma map_snd_eachPlaced : (eachPlaced list number es).map Prod.snd =
    es.flatMap fun e => (list e).map Prod.snd := by
  induction es generalizing number with
  | nil => rfl
  | cons e es ih =>
    rw [eachPlaced, List.map_append, List.map_map, ih, List.flatMap_cons]
    rfl

/-! ### Elements nested under one tag -/

lemma placedAmong_eq (tag : String) (number : Nat) (es : List Element) :
    placedAmong tag number es =
      eachPlaced (fun e => if e.tag == tag then placed tag e else []) number es := by
  induction es generalizing number with
  | nil => rfl
  | cons e es ih => rw [placedAmong, eachPlaced, ih]

mutual

theorem map_snd_placed (tag : String) : ∀ e : Element,
    (placed tag e).map Prod.snd = nested tag e
  | .mk t attributes text children tail => by
    rw [placed, nested, List.map_cons, map_snd_placedAmong tag 0 children]

theorem map_snd_placedAmong (tag : String) (number : Nat) : ∀ es : List Element,
    (placedAmong tag number es).map Prod.snd = nestedAmong tag es
  | [] => rfl
  | e :: es => by
    have hfirst := map_snd_placed tag e
    rw [placedAmong, nestedAmong, List.map_append, List.map_map,
      map_snd_placedAmong tag (number + 1) es]
    split
    · exact congrArg (· ++ nestedAmong tag es) hfirst
    · rfl

end

mutual

theorem pairwise_placed (tag : String) : ∀ e : Element,
    (placed tag e).Pairwise fun v w => Precedes v.1 w.1
  | .mk t attributes text children tail => by
    rw [placed, placedAmong_eq, List.pairwise_cons]
    refine ⟨?_, pairwise_eachPlaced (forall_pairwise_placed tag children)⟩
    rintro ⟨place, y⟩ hw
    obtain ⟨i, rest, -, rfl, -⟩ := mem_eachPlaced.mp hw
    exact .nil

lemma forall_pairwise_placed (tag : String) : ∀ es : List Element, ∀ e ∈ es,
    (if e.tag == tag then placed tag e else []).Pairwise fun v w => Precedes v.1 w.1
  | [] => by simp
  | e :: es => by
    rw [List.forall_mem_cons]
    refine ⟨?_, forall_pairwise_placed tag es⟩
    split
    · exact pairwise_placed tag e
    · exact List.Pairwise.nil

end

/-- The places below an element are listed in document order. -/
theorem pairwise_placedAmong (tag : String) (number : Nat) (es : List Element) :
    (placedAmong tag number es).Pairwise fun v w => Precedes v.1 w.1 := by
  rw [placedAmong_eq]
  exact pairwise_eachPlaced (forall_pairwise_placed tag es)

lemma placed_eq (tag : String) (e : Element) :
    placed tag e = ([], e) :: placedAmong tag 0 e.children := by
  cases e
  rw [placed, children]

lemma leadsTo_nil : LeadsTo tag e [] x ↔ x = e := by
  constructor
  · rintro ⟨⟩
    rfl
  · rintro rfl
    exact .here x

lemma leadsTo_cons {i : Nat} : LeadsTo tag e (i :: place) x ↔
    ∃ c, e.children[i]? = some c ∧ c.tag = tag ∧ LeadsTo tag c place x := by
  constructor
  · rintro (_ | ⟨nth, named, rest⟩)
    exact ⟨_, nth, named, rest⟩
  · rintro ⟨c, nth, named, rest⟩
    exact .child nth named rest

/-- An element is listed under each place that a chain leads to, and under no other. -/
theorem mem_placed : (place, x) ∈ placed tag e ↔ LeadsTo tag e place x := by
  induction place generalizing e with
  | nil =>
    rw [leadsTo_nil, placed_eq, placedAmong_eq, List.mem_cons, mem_eachPlaced]
    simp
  | cons i place ih =>
    rw [leadsTo_cons, placed_eq, placedAmong_eq, List.mem_cons, mem_eachPlaced]
    constructor
    · rintro (heq | ⟨j, rest, c, heq, hc, hmem⟩)
      · cases heq
      · rw [Nat.zero_add] at heq
        obtain ⟨rfl, rfl⟩ := List.cons.inj heq
        split at hmem
        · next htag => exact ⟨c, hc, by simpa using htag, ih.mp hmem⟩
        · cases hmem
    · rintro ⟨c, hc, htag, hleads⟩
      refine .inr ⟨i, place, c, by rw [Nat.zero_add], hc, ?_⟩
      rw [if_pos (by simpa using htag)]
      exact ih.mpr hleads

theorem mem_placedAmong_children :
    (place, x) ∈ placedAmong tag 0 e.children ↔ place ≠ [] ∧ LeadsTo tag e place x := by
  rw [← mem_placed, placed_eq, List.mem_cons]
  cases place with
  | nil =>
    rw [placedAmong_eq, mem_eachPlaced]
    simp
  | cons i place => simp

end QuizPreflight.Markup.Element
