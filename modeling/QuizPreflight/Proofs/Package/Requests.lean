import QuizPreflight.Proofs.Package.Registration

/-!
# Requests to a registry

A registry is asked to take in identifiers and, at any time, how many it knows and whether it knows
one. Its replies and its errors are told from the requests alone: what it knows are the identifiers
of the requests before, each repetition of one is an error, and nothing else changes.
-/
namespace QuizPreflight.Package

inductive Request where
  | register (value : Option String) (source : String)
  | contains (id : String)
  | size
  deriving DecidableEq, Repr

inductive Reply where
  | isNew (flag : Bool)
  | isKnown (flag : Bool)
  | size (count : Nat)
  deriving DecidableEq, Repr

/-- The identifier that a request brings; an empty one does not count. -/
def Request.brings : Request → Option String
  | .register (some id) _ => if id = "" then none else some id
  | _ => none

/-- The identifiers that some requests bring, in their order. -/
def registered (rs : List Request) : List String := rs.filterMap Request.brings

/-- The reply to a request that comes after some others. -/
def Request.replyAfter (earlier : List Request) (r : Request) : Reply :=
  match r with
  | .register _ _ => .isNew (r.brings.all fun id => id ∉ registered earlier)
  | .contains id => .isKnown (id ∈ registered earlier)
  | .size => .size (registered earlier).toFinset.card

/-- The error that a request makes if it comes after some others: it names the identifier that is
repeated and the source that repeats it. -/
def Request.errorAfter (earlier : List Request) : Request → Option String
  | .register (some id) source =>
    if id ∈ registered earlier then some s!"Duplicate identifier used: '{id}' in {source}" else none
  | _ => none

/-- The errors of some requests, each told from those before it. -/
def repetitions (rs : List Request) : List String :=
  rs.zipIdx.filterMap fun v => v.1.errorAfter (rs.take v.2)

namespace Registry

/-- A registry that knows nothing, over a report. -/
def fresh (report : Report) : Registry := ⟨report, []⟩

def reply (g : Registry) : Request → Reply × Registry
  | .register value source =>
    let (isNew, g) := g.register value source
    (.isNew isNew, g)
  | .contains id => (.isKnown (g.contains id), g)
  | .size => (.size g.size, g)

def replies (g : Registry) : List Request → List Reply
  | [] => []
  | r :: rs => (g.reply r).1 :: (g.reply r).2.replies rs

def after (g : Registry) (rs : List Request) : Registry := rs.foldl (fun g r => (g.reply r).2) g

/-- What a registry that was fresh over a report has kept of some requests. -/
structure Kept (report : Report) (rs : List Request) (g : Registry) : Prop where
  size : g.size = (registered rs).toFinset.card
  contains : ∀ id, g.contains id = true ↔ id ∈ registered rs
  report : g.report = { report with errors := report.errors ++ repetitions rs }
  count : (repetitions rs).length + g.size = (registered rs).length

end Registry

/-! ### One more request -/

section Requests

variable {rs : List Request} {r : Request} {id : String}

lemma brings_eq_some_iff :
    r.brings = some id ↔ id ≠ "" ∧ ∃ source, r = .register (some id) source := by
  constructor
  · intro h
    unfold Request.brings at h
    split at h
    · split at h
      · cases h
      · next source hother =>
        cases h
        exact ⟨hother, source, rfl⟩
    · cases h
  · rintro ⟨hid, source, rfl⟩
    exact if_neg hid

lemma empty_notMem_registered (rs : List Request) : "" ∉ registered rs := by
  rw [registered, List.mem_filterMap]
  rintro ⟨r, -, hr⟩
  exact (brings_eq_some_iff.mp hr).1 rfl

lemma registered_concat (rs : List Request) (r : Request) :
    registered (rs ++ [r]) = registered rs ++ r.brings.toList := by
  rw [registered, List.filterMap_append, registered]
  cases h : r.brings <;> simp [h]

lemma registered_register (hid : id ≠ "") (rs : List Request) (source : String) :
    registered (rs ++ [.register (some id) source]) = registered rs ++ [id] := by
  simp [registered_concat, Request.brings, hid]

lemma repetitions_concat (rs : List Request) (r : Request) :
    repetitions (rs ++ [r]) = repetitions rs ++ (r.errorAfter rs).toList := by
  have hearlier : rs.zipIdx.filterMap (fun v => v.1.errorAfter ((rs ++ [r]).take v.2)) =
      repetitions rs := by
    apply List.filterMap_congr
    intro v hv
    have hlt : v.2 < rs.length := by simpa using List.snd_lt_of_mem_zipIdx hv
    rw [List.take_append_of_le_length hlt.le]
  rw [repetitions, List.zipIdx_append, List.filterMap_append, hearlier]
  cases h : r.errorAfter rs <;> simp [h]

/-- An identifier is registered by a request before the given number. -/
lemma mem_registered_take {n : Nat} : id ∈ registered (rs.take n) ↔
    id ≠ "" ∧ ∃ i < n, ∃ source, rs[i]? = some (.register (some id) source) := by
  rw [registered, List.mem_filterMap]
  constructor
  · rintro ⟨r, hr, hbrings⟩
    obtain ⟨hid, source, rfl⟩ := brings_eq_some_iff.mp hbrings
    obtain ⟨i, hi, hget⟩ := List.mem_take_iff_getElem.mp hr
    exact ⟨hid, i, by omega, source, List.getElem?_eq_some_iff.mpr ⟨_, hget⟩⟩
  · rintro ⟨hid, i, hi, source, hr⟩
    obtain ⟨hlt, hget⟩ := List.getElem?_eq_some_iff.mp hr
    exact ⟨_, List.mem_take_iff_getElem.mpr ⟨i, by omega, hget⟩,
      brings_eq_some_iff.mpr ⟨hid, source, rfl⟩⟩

lemma replyAfter_eq_isNew_false_iff : r.replyAfter rs = .isNew false ↔
    ∃ id source, r = .register (some id) source ∧ id ≠ "" ∧ id ∈ registered rs := by
  cases r with
  | register value source =>
    cases value with
    | none => simp [Request.replyAfter, Request.brings]
    | some id =>
      by_cases hid : id = ""
      · simp [Request.replyAfter, Request.brings, hid]
      · simp [Request.replyAfter, Request.brings, hid]
  | contains id => simp [Request.replyAfter]
  | size => simp [Request.replyAfter]

/-- A request that brings an identifier registers it, and no other request makes an error. -/
lemma Request.brings_cases (r : Request) (rs : List Request) :
    (r.brings = none ∧ r.errorAfter rs = none ∧ ∀ g : Registry, (g.reply r).2 = g) ∨
    ∃ id source, r = .register (some id) source ∧ id ≠ "" ∧ r.brings = some id := by
  cases r with
  | register value source =>
    cases value with
    | none => exact .inl ⟨rfl, rfl, fun _ => rfl⟩
    | some id =>
      by_cases hid : id = ""
      · subst hid
        refine .inl ⟨rfl, ?_, fun _ => rfl⟩
        simp [errorAfter, empty_notMem_registered]
      · exact .inr ⟨id, source, rfl, hid, by simp [brings, hid]⟩
  | contains id => exact .inl ⟨rfl, rfl, fun _ => rfl⟩
  | size => exact .inl ⟨rfl, rfl, fun _ => rfl⟩

end Requests

namespace Registry

variable {g : Registry} {report : Report} {rs : List Request} {id source : String}

lemma reply_known (hid : id ≠ "") (h : g.contains id = true) :
    g.reply (.register (some id) source) = (.isNew false,
      { g with report := g.report.error s!"Duplicate identifier used: '{id}' in {source}" }) := by
  have hne : id.isEmpty = false := by simpa using hid
  have hseen : g.seen.contains id = true := h
  simp only [reply, register, hne, hseen, if_true, Bool.false_eq_true, if_false]

lemma reply_new (hid : id ≠ "") (h : g.contains id = false) :
    g.reply (.register (some id) source) = (.isNew true, { g with seen := id :: g.seen }) := by
  have hne : id.isEmpty = false := by simpa using hid
  have hseen : g.seen.contains id = false := h
  simp only [reply, register, hne, hseen, Bool.false_eq_true, if_false]

lemma kept_fresh (report : Report) : Kept report [] (fresh report) := by
  refine ⟨rfl, fun id => by simp [fresh, contains, registered], ?_, rfl⟩
  simp [fresh, repetitions]

/-- A repetition adds an error and no identifier. -/
lemma Kept.reply_known (h : Kept report rs g) (hid : id ≠ "") (hknown : id ∈ registered rs)
    (source : String) :
    Kept report (rs ++ [.register (some id) source]) (g.reply (.register (some id) source)).2 := by
  have hregistered := registered_register hid rs source
  have hrepetitions : repetitions (rs ++ [.register (some id) source]) =
      repetitions rs ++ [s!"Duplicate identifier used: '{id}' in {source}"] := by
    rw [repetitions_concat, Request.errorAfter, if_pos hknown, Option.toList_some]
  have hset : (registered rs ++ [id]).toFinset = (registered rs).toFinset := by
    ext other
    simp only [List.toFinset_append, Finset.mem_union, List.mem_toFinset, List.mem_singleton]
    constructor
    · rintro (h | rfl)
      · exact h
      · exact hknown
    · exact .inl
  rw [Registry.reply_known hid ((h.contains id).mpr hknown)]
  refine ⟨?_, fun other => ?_, ?_, ?_⟩
  · rw [hregistered, hset]
    exact h.size
  · rw [hregistered, ← List.mem_toFinset, hset, List.mem_toFinset]
    exact h.contains other
  · simp [hrepetitions, h.report, Report.error]
  · have hcount := h.count
    rw [hrepetitions, hregistered, List.length_append, List.length_append]
    simp only [List.length_singleton]
    change (repetitions rs).length + 1 + g.size = _
    omega

/-- A new identifier is known from then on and adds no error. -/
lemma Kept.reply_new (h : Kept report rs g) (hid : id ≠ "") (hnew : id ∉ registered rs)
    (source : String) :
    Kept report (rs ++ [.register (some id) source]) (g.reply (.register (some id) source)).2 := by
  have hregistered := registered_register hid rs source
  have hrepetitions : repetitions (rs ++ [.register (some id) source]) = repetitions rs := by
    rw [repetitions_concat, Request.errorAfter, if_neg hnew, Option.toList_none, List.append_nil]
  have hcard : (registered rs ++ [id]).toFinset.card = g.size + 1 := by
    rw [h.size, List.toFinset_append, List.toFinset_cons, List.toFinset_nil, Finset.union_insert,
      Finset.union_empty, Finset.card_insert_of_notMem (by simpa)]
  have hunknown : g.contains id = false := by
    rw [← Bool.not_eq_true, h.contains]
    exact hnew
  rw [Registry.reply_new hid hunknown]
  refine ⟨?_, fun other => ?_, ?_, ?_⟩
  · rw [hregistered, hcard]
    rfl
  · rw [hregistered, List.mem_append, ← h.contains]
    simp [Registry.contains, or_comm]
  · rw [hrepetitions]
    exact h.report
  · have hcount := h.count
    rw [hrepetitions, hregistered, List.length_append]
    change (repetitions rs).length + (g.size + 1) = (registered rs).length + 1
    omega

/-- What is kept of some requests is kept of one more. -/
theorem Kept.reply (h : Kept report rs g) (r : Request) :
    Kept report (rs ++ [r]) (g.reply r).2 := by
  rcases r.brings_cases rs with ⟨hbrings, herror, hsame⟩ | ⟨id, source, rfl, hid, hbrings⟩
  · rw [hsame]
    have hregistered : registered (rs ++ [r]) = registered rs := by
      rw [registered_concat, hbrings, Option.toList_none, List.append_nil]
    have hrepetitions : repetitions (rs ++ [r]) = repetitions rs := by
      rw [repetitions_concat, herror, Option.toList_none, List.append_nil]
    obtain ⟨hsize, hcontains, hreport, hcount⟩ := h
    constructor <;> simpa only [hregistered, hrepetitions]
  · by_cases hknown : id ∈ registered rs
    · exact h.reply_known hid hknown source
    · exact h.reply_new hid hknown source

/-- The reply to a request is told from the requests before it. -/
theorem Kept.reply_eq (h : Kept report rs g) (r : Request) : (g.reply r).1 = r.replyAfter rs := by
  have hcontains : ∀ id, g.contains id = decide (id ∈ registered rs) := by
    intro id
    rw [Bool.eq_iff_iff, decide_eq_true_eq]
    exact h.contains id
  cases r with
  | size => exact congrArg Reply.size h.size
  | contains id => exact congrArg Reply.isKnown (hcontains id)
  | register value source =>
    cases value with
    | none => rfl
    | some id =>
      by_cases hid : id = ""
      · subst hid
        rfl
      · by_cases hknown : id ∈ registered rs
        · rw [Registry.reply_known hid ((h.contains id).mpr hknown)]
          simp [Request.replyAfter, Request.brings, hid, hknown]
        · rw [Registry.reply_new hid (by rw [hcontains, decide_eq_false hknown])]
          simp [Request.replyAfter, Request.brings, hid, hknown]

/-! ### Runs -/

lemma after_concat (g : Registry) (rs : List Request) (r : Request) :
    g.after (rs ++ [r]) = ((g.after rs).reply r).2 := by
  rw [after, List.foldl_concat, after]

/-- Of any run of requests, a registry keeps what they bring. -/
theorem kept_after (report : Report) (rs : List Request) :
    Kept report rs ((fresh report).after rs) := by
  induction rs using List.reverseRecOn with
  | nil => exact kept_fresh report
  | append_singleton rs r ih =>
    rw [after_concat]
    exact ih.reply r

lemma getElem?_replies (g : Registry) (rs : List Request) (i : Nat) :
    (g.replies rs)[i]? = rs[i]?.map fun r => ((g.after (rs.take i)).reply r).1 := by
  induction rs generalizing g i with
  | nil => rfl
  | cons r rs ih =>
    cases i with
    | zero => rfl
    | succ i =>
      rw [replies, List.getElem?_cons_succ, ih, List.getElem?_cons_succ, List.take_succ_cons]
      rfl

lemma Kept.errors_length (h : Kept report rs g) : g.report.errors.length =
    report.errors.length + ((registered rs).length - (registered rs).toFinset.card) := by
  have hcount := h.count
  have hsize := h.size
  rw [h.report, List.length_append]
  omega

/-- Whatever a registry is asked, in any order: after each request it knows the identifiers brought
so far and counts the distinct ones, its report has got one error for each registration beyond
these, and nothing else in it has changed. The errors stand in the order of the requests that
repeat an identifier, each with the identifier and the source of its own request. Each reply is
told from the requests before; a registration is refused exactly if its identifier is not empty and
was registered before. How many errors there are does not depend on the order of the requests. -/
theorem replies_accounted (report : Report) (rs : List Request) :
    (∀ n, Kept report (rs.take n) ((fresh report).after (rs.take n))) ∧
    (∀ i : Nat,
      ((fresh report).replies rs)[i]? = rs[i]?.map (Request.replyAfter (rs.take i))) ∧
    (∀ i : Nat, ((fresh report).replies rs)[i]? = some (.isNew false) ↔
      ∃ id source, rs[i]? = some (.register (some id) source) ∧ id ≠ "" ∧
        ∃ j < i, ∃ earlier, rs[j]? = some (.register (some id) earlier)) ∧
    ∀ rs' : List Request, rs'.Perm rs →
      ((fresh report).after rs').report.errors.length =
        ((fresh report).after rs).report.errors.length := by
  have hreplies : ∀ i, ((fresh report).replies rs)[i]? =
      rs[i]?.map (Request.replyAfter (rs.take i)) := by
    intro i
    rw [getElem?_replies]
    cases rs[i]? with
    | none => rfl
    | some r => exact congrArg some ((kept_after report (rs.take i)).reply_eq r)
  refine ⟨fun n => kept_after report (rs.take n), hreplies, fun i => ?_, fun rs' hperm => ?_⟩
  · rw [hreplies]
    cases hr : rs[i]? with
    | none => simp
    | some r =>
      simp only [Option.map_some, Option.some.injEq, replyAfter_eq_isNew_false_iff,
        mem_registered_take]
      tauto
  · have hregistered : (registered rs').Perm (registered rs) := hperm.filterMap _
    rw [(kept_after report rs').errors_length, (kept_after report rs).errors_length,
      hregistered.length_eq, List.toFinset_eq_of_perm _ _ hregistered]

example : (fresh Report.empty).replies [.register (some "a") "x", .register (some "") "y",
    .register (some "a") "z", .contains "a", .register none "", .size] =
      [.isNew true, .isNew true, .isNew false, .isKnown true, .isNew true, .size 1] := rfl

end Registry

end QuizPreflight.Package
