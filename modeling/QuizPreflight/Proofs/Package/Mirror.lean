import QuizPreflight.Package.Validation
import QuizPreflight.Proofs.Files.Descent
import QuizPreflight.Proofs.Package.Agreement
import QuizPreflight.Proofs.Package.Reference
import QuizPreflight.Proofs.Result

/-!
# Packages that hold the same

A check looks at a package only along paths below its root. Of two packages that hold the same
every check makes the same findings, provided that it comes to its end on both and that no
reference leads upwards.
-/
namespace QuizPreflight.Package

open Markup

/-- Two packages hold the same under names that differ, and refer to nothing outside. -/
structure Mirrors (site site' : Site) (entries entries' : List (String × Entry)) : Prop where
  holds : site.files.lookup site.root = .ok (.folder entries)
  holds' : site'.files.lookup site'.root = .ok (.folder entries')
  alike : (Entry.folder entries).Alike (.folder entries')
  nodup : (entries.map Prod.fst).Nodup
  nodup' : (entries'.map Prod.fst).Nodup
  inward : RefersInward (.folder entries)

variable {site site' : Site} {entries entries' : List (String × Entry)} {names : List String}
  {href : String}

lemma readDocument_eq_ok_iff {p : Path} {d : Except DocumentFault Element} :
    site.readDocument p = .ok d ↔
      ∃ content, site.files.read p = .ok content ∧ documentOf content = d := by
  unfold Site.readDocument FileSystem.readText documentOf
  rcases site.files.read p with e | content
  · simp
  · rcases hdecode : Text.Utf8.decode content with f | text <;> simp [hdecode]

lemma resolve_append (root : Path) (names : List String) (href : String) :
    resolve (root.append names) href = root.append (names ++ referenceNames href) := by
  simp [resolve, Path.append]

namespace Mirrors

theorem exists? (h : Mirrors site site' entries entries') (hd : ".." ∉ names) :
    (Check.look (site.files.exists? (site.root.append names))).Agree
      (Check.look (site'.files.exists? (site'.root.append names))) :=
  .look fun _ _ hb hb' => FileSystem.exists?_append_of_alike h.holds h.holds' h.alike hd hb hb'

theorem readDocument (h : Mirrors site site' entries entries') (hd : ".." ∉ names) :
    (Check.look (site.readDocument (site.root.append names))).Agree
      (Check.look (site'.readDocument (site'.root.append names))) := by
  refine .look fun d d' hr hr' => ?_
  obtain ⟨content, hread, rfl⟩ := readDocument_eq_ok_iff.mp hr
  obtain ⟨content', hread', rfl⟩ := readDocument_eq_ok_iff.mp hr'
  rw [FileSystem.read_append_of_alike h.holds h.holds' h.alike hd hread hread']

/-- The documents that are read refer inward. -/
theorem inward_of_readDocument (h : Mirrors site site' entries entries') (hd : ".." ∉ names)
    {root : Element} (hr : site.readDocument (site.root.append names) = .ok (.ok root)) :
    (∀ href ∈ hrefs root, LeadsInward href) ∧ ∀ href ∈ images root, LeadsInward href := by
  obtain ⟨content, hread, hroot⟩ := readDocument_eq_ok_iff.mp hr
  have hlookup := FileSystem.read_eq_ok_iff.mp hread
  have hget := ((FileSystem.lookup_append_eq_ok_iff h.holds hd).mp hlookup).1
  have hall := h.inward names content root hget hroot
  exact ⟨fun href hh => hall href (List.mem_append_left _ hh),
    fun href hh => hall href (List.mem_append_right _ hh)⟩

theorem exists?_resolve (h : Mirrors site site' entries entries') (hd : ".." ∉ names)
    (hin : LeadsInward href) :
    (Check.look (site.exists? (site.root.append names) href)).Agree
      (Check.look (site'.exists? (site'.root.append names) href)) := by
  simp only [Site.exists?, resolve_append]
  exact h.exists? (by simpa using ⟨hd, hin⟩)

theorem exists?_root (h : Mirrors site site' entries entries') (hin : LeadsInward href) :
    (Check.look (site.exists? site.root href)).Agree
      (Check.look (site'.exists? site'.root href)) := by
  have hnil : ∀ p : Path, p = p.append [] := fun p => by simp [Path.append]
  rw [hnil site.root, hnil site'.root]
  exact h.exists?_resolve List.not_mem_nil hin

end Mirrors

namespace Manifest

variable {resource item test : Element}

theorem existsUnder_agree {first first' second second' : Path}
    (hfirst : (Check.look (site.exists? first href)).Agree (Check.look (site'.exists? first' href)))
    (hsecond : (Check.look (site.exists? second href)).Agree
      (Check.look (site'.exists? second' href))) :
    (existsUnder site first second href).Agree (existsUnder site' first' second' href) := by
  unfold existsUnder
  refine .bind hfirst fun found _ _ => ?_
  split
  · exact .refl _
  · exact hsecond

theorem checkImage_agree (h : Mirrors site site' entries entries') {src : String}
    (hin : LeadsInward src) : (checkImage site href src).Agree (checkImage site' href src) := by
  unfold checkImage
  split
  · refine .bind (existsUnder_agree (h.exists?_resolve (by simp) hin) (h.exists?_root hin)) ?_
    exact fun found _ _ => .refl _
  · exact .refl _

theorem checkItem_agree (h : Mirrors site site' entries entries')
    (hin : ∀ src ∈ images item, LeadsInward src) :
    (checkItem site item href).Agree (checkItem site' item href) := by
  unfold checkItem
  exact .report_bind _ (.each fun src hsrc => checkImage_agree h (hin src hsrc))

theorem checkItemReference_agree (h : Mirrors site site' entries entries') (hd : ".." ∉ names)
    {ref : Element} (hin : ∀ href ∈ hrefs ref, LeadsInward href) :
    (checkItemReference site (site.root.append names) ref).Agree
      (checkItemReference site' (site'.root.append names) ref) := by
  unfold checkItemReference
  cases hh : ref.attribute? "href" with
  | none => exact .refl _
  | some href =>
    have hone := hin href (Reference.mem_hrefs_of_attribute hh)
    refine .bind (existsUnder_agree (h.exists?_root hone) (h.exists?_resolve hd hone)) ?_
    exact fun found _ _ => .refl _

mutual

theorem checkSection_agree (h : Mirrors site site' entries entries') (hd : ".." ∉ names) :
    ∀ e : Element, (∀ href ∈ hrefs e, LeadsInward href) →
      (checkSection site href (site.root.append names) e).Agree
        (checkSection site' href (site'.root.append names) e)
  | .mk tag attributes text children tail => fun hin => by
    rw [checkSection, checkSection]
    refine .report_bind _ (.bind (.each fun ref hmem => ?_) fun _ _ _ => ?_)
    · exact checkItemReference_agree h hd fun s hs =>
        hin s (Reference.hrefs_of_mem_childrenNamed hmem hs)
    · exact checkSections_agree h hd children fun e he s hs =>
        hin s (Reference.hrefs_of_mem_children he hs)

theorem checkSections_agree (h : Mirrors site site' entries entries') (hd : ".." ∉ names) :
    ∀ es : List Element, (∀ e ∈ es, ∀ href ∈ hrefs e, LeadsInward href) →
      (checkSections site href (site.root.append names) es).Agree
        (checkSections site' href (site'.root.append names) es)
  | [] => fun _ => .refl _
  | .mk tag attributes text children tail :: rest => fun hin => by
    have hrest := checkSections_agree h hd rest fun e he => hin e (List.mem_cons_of_mem _ he)
    rw [checkSections, checkSections]
    dsimp only
    split
    · exact .bind (checkSection_agree h hd _ (hin _ List.mem_cons_self)) fun _ _ _ => hrest
    · exact hrest

end

lemma parent_resolve (root : Path) (h : referenceNames href ≠ []) :
    (resolve root href).parent = root.append (referenceNames href).dropLast := by
  simp [resolve, Path.parent, Path.append, List.dropLast_append_of_ne_nil h]

theorem checkTest_agree (h : Mirrors site site' entries entries') (hin : LeadsInward href)
    (hne : referenceNames href ≠ []) (htest : ∀ s ∈ hrefs test, LeadsInward s) :
    (checkTest site test href).Agree (checkTest site' test href) := by
  have hd : ".." ∉ (referenceNames href).dropLast := fun hm => hin (List.dropLast_subset _ hm)
  unfold checkTest
  simp only [parent_resolve _ hne]
  refine .each fun part hpart => checkSections_agree h hd part.children fun e he s hs => ?_
  have hpart' := Reference.hrefs_of_mem_childrenNamed hpart
  exact htest s (hpart' (Reference.hrefs_of_mem_children he hs))

theorem readResource_agree (h : Mirrors site site' entries entries') (hin : LeadsInward href) :
    (readResource site href).Agree (readResource site' href) := by
  unfold readResource
  exact .bind (h.readDocument hin) fun _ _ _ => .refl _

lemma readDocument_of_readResource {root : Element}
    (hr : (readResource site href).result = .ok (some root)) :
    site.readDocument (resolve site.root href) = .ok (.ok root) := by
  unfold readResource at hr
  obtain ⟨d, hd, hrest⟩ := Check.bind_result_eq_ok_iff.mp hr
  cases d with
  | error f =>
    obtain ⟨u, -, hnone⟩ := Check.bind_result_eq_ok_iff.mp hrest
    cases hnone
  | ok e =>
    obtain rfl : e = root := Option.some.inj (Except.ok.inj hrest)
    exact hd

/-- A document is not the root of the package. -/
lemma referenceNames_ne_nil (h : Mirrors site site' entries entries') {root : Element}
    (hr : site.readDocument (resolve site.root href) = .ok (.ok root)) :
    referenceNames href ≠ [] := by
  intro hnil
  obtain ⟨content, hread, -⟩ := readDocument_eq_ok_iff.mp hr
  have hlookup := FileSystem.read_eq_ok_iff.mp hread
  rw [resolve, hnil, Path.append, List.append_nil, h.holds] at hlookup
  cases hlookup

theorem checkFile_agree (h : Mirrors site site' entries entries') (kind : ResourceKind)
    (hin : LeadsInward href) : (checkFile site kind href).Agree (checkFile site' kind href) := by
  unfold checkFile
  refine .bind (readResource_agree h hin) fun found hfound _ => ?_
  cases found with
  | none => exact .refl _
  | some root =>
    have hr := readDocument_of_readResource hfound
    obtain ⟨hhrefs, himages⟩ := h.inward_of_readDocument hin hr
    dsimp only
    split
    · exact .refl _
    · refine .report_bind _ ?_
      -- a test looks from the folder of its own document
      cases kind with
      | item => exact checkItem_agree h himages
      | test => exact checkTest_agree h hin (referenceNames_ne_nil h hr) hhrefs

theorem present_agree (h : Mirrors site site' entries entries') (complaint : String)
    (hin : LeadsInward href) :
    (present site complaint href).Agree (present site' complaint href) := by
  unfold present
  refine .bind (h.exists?_root hin) fun found _ _ => ?_
  exact .refl _

/-- Which references to documents lead to one path does not depend on where the package stands. -/
lemma distinctDocuments_append (root root' : Path) (seen : List (List String))
    (refs : List String) :
    distinctDocuments root (seen.map root.append) refs =
      distinctDocuments root' (seen.map root'.append) refs := by
  have hcontains : ∀ (p : Path) (seen : List (List String)) (ns : List String),
      (seen.map p.append).contains (p.append ns) = seen.contains ns := by
    intro p seen ns
    rw [Bool.eq_iff_iff, List.contains_iff_mem, List.contains_iff_mem, List.mem_map]
    constructor
    · rintro ⟨ms, hms, heq⟩
      obtain rfl : ms = ns := List.append_cancel_left (congrArg Path.names heq)
      exact hms
    · intro hns
      exact ⟨ns, hns, rfl⟩
  induction refs generalizing seen with
  | nil => rfl
  | cons href refs ih =>
    have hseen := ih (referenceNames href :: seen)
    rw [List.map_cons, List.map_cons] at hseen
    simp only [distinctDocuments, resolve, hcontains, ih seen, hseen]

lemma mem_of_distinctDocuments {root : Path} {seen : List Path} {refs : List String}
    (h : href ∈ distinctDocuments root seen refs) : href ∈ refs := by
  induction refs generalizing seen with
  | nil => simp [distinctDocuments] at h
  | cons ref refs ih =>
    rw [distinctDocuments] at h
    split at h
    · exact List.mem_cons_of_mem _ (ih h)
    · rcases List.mem_cons.mp h with rfl | h
      · exact List.mem_cons_self
      · exact List.mem_cons_of_mem _ (ih h)

theorem checkResource_agree (h : Mirrors site site' entries entries')
    (hin : ∀ s ∈ hrefs resource, LeadsInward s) :
    (checkResource site resource).Agree (checkResource site' resource) := by
  have hmain : ∀ s ∈ (resource.attribute? "href").toList, LeadsInward s := by
    intro s hs
    exact hin s (Reference.mem_hrefs_of_attribute (Option.mem_toList.mp hs))
  have hfiles : ∀ s ∈ (resource.childrenNamed "file").filterMap (·.attribute? "href"),
      LeadsInward s := by
    intro s hs
    obtain ⟨file, hfile, hattr⟩ := List.mem_filterMap.mp hs
    exact hin s (Reference.hrefs_of_mem_childrenNamed hfile (Reference.mem_hrefs_of_attribute hattr))
  unfold checkResource
  refine .report_bind _ ?_
  refine .bind (.filter fun s hs => present_agree h _ (hmain s hs)) fun main hm _ => ?_
  refine .bind (.filter fun s hs => present_agree h _ (hfiles s hs)) fun files hf _ => ?_
  split
  · exact .refl _
  · next kind _ =>
    have hsame := distinctDocuments_append site.root site'.root [] (main ++ files)
    rw [List.map_nil, List.map_nil] at hsame
    rw [hsame]
    refine .each fun s hs => checkFile_agree h kind ?_
    rcases List.mem_append.mp (mem_of_distinctDocuments hs) with hs | hs
    · exact hmain s (Check.mem_of_filter hm s hs)
    · exact hfiles s (Check.mem_of_filter hf s hs)

theorem check_agree (h : Mirrors site site' entries entries') (hd : ".." ∉ names) :
    (check site (site.root.append names)).Agree (check site' (site'.root.append names)) := by
  unfold check
  refine .report_bind _ (.bind (h.readDocument hd) fun found hfound _ => ?_)
  cases found with
  | error f => exact .refl _
  | ok manifest =>
    obtain ⟨hhrefs, -⟩ := h.inward_of_readDocument hd hfound
    dsimp only
    split
    · exact .refl _
    · refine .report_bind _ (.bind (.each fun resource hres => ?_) fun _ _ _ => .refl _)
      exact checkResource_agree h fun s hs =>
        hhrefs s (Reference.hrefs_of_mem_resourcesOf hres hs)

end Manifest

lemma firstLegacy?_of_mirrors (h : Mirrors site site' entries entries') {found : List String}
    (hd : ".." ∉ found) {e e' : Option Element}
    (he : firstLegacy? site (found.map fun n => site.root.append [n]) = .ok e)
    (he' : firstLegacy? site' (found.map fun n => site'.root.append [n]) = .ok e') : e = e' := by
  induction found with
  | nil =>
    obtain rfl : none = e := Except.ok.inj he
    exact Except.ok.inj he'
  | cons n found ih =>
    obtain ⟨hn, hfound⟩ : ".." ≠ n ∧ ".." ∉ found := by simpa using hd
    simp only [List.map_cons, firstLegacy?] at he he'
    cases hr : site.readDocument (site.root.append [n]) with
    | error f => simp [hr, bind, Except.bind] at he
    | ok d =>
      cases hr' : site'.readDocument (site'.root.append [n]) with
      | error f => simp [hr', bind, Except.bind] at he'
      | ok d' =>
        obtain rfl : d = d' := (h.readDocument (by simpa using hn) d d' hr hr').2
        simp only [hr, hr', bind, Except.bind] at he he'
        cases d with
        | error f => exact ih hfound he he'
        | ok root =>
          dsimp only at he he'
          split at he
          · next htag =>
            rw [if_pos htag] at he'
            exact Except.ok.inj (he.symm.trans he')
          · next htag =>
            rw [if_neg htag] at he'
            exact ih hfound he he'

theorem legacyDocument?_agree (h : Mirrors site site' entries entries') :
    (Check.look site.legacyDocument?).Agree (Check.look site'.legacyDocument?) := by
  refine .look fun e e' he he' => ?_
  obtain ⟨ps, hps, he⟩ := bind_eq_ok_iff.mp he
  obtain ⟨ps', hps', he'⟩ := bind_eq_ok_iff.mp he'
  obtain ⟨found, hending, rfl, rfl⟩ := FileSystem.filesEnding_of_alike h.holds h.holds'
    h.alike h.nodup h.nodup' hps hps'
  have hd : ".." ∉ found := by
    intro hm
    have hxml := hending ".." hm
    revert hxml
    decide
  exact firstLegacy?_of_mirrors h hd he he'

/-- Packages that hold the same are checked with the same findings. -/
theorem checkSite_agree (h : Mirrors site site' entries entries') {manifestName : String}
    (hrelative : (Path.ofString manifestName).isAbsolute = false)
    (hd : ".." ∉ (Path.ofString manifestName).names) (strict : Bool) :
    (checkSite site strict manifestName).Agree (checkSite site' strict manifestName) := by
  have hwithin : ∀ root : Path, (Path.ofString manifestName).within root =
      root.append (Path.ofString manifestName).names := by
    intro root
    rw [Path.within, if_neg (by rw [hrelative]; simp)]
  unfold checkSite
  refine .bind (legacyDocument?_agree h) fun legacy _ _ => ?_
  cases legacy with
  | some root => exact .refl _
  | none =>
    simp only [hwithin]
    refine .bind (h.exists? hd) fun found _ _ => ?_
    split
    · exact Manifest.check_agree h hd
    · exact .refl _

end QuizPreflight.Package
