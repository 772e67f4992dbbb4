import TemplateSwap.Proofs.Replacement.Swapping
import TemplateSwap.Proofs.Running.Applying
import TemplateSwap.Proofs.Running.HalfApplied

namespace TemplateSwap

open TemplateSwap.Text (Encoding)

variable {root : String} {env : Environment} {tree : Tree}

/-- What was made from a source leads back if it is turned around twice. -/
theorem Spec.Made.reverse_reverse {s s' : Spec} (h : s.Made) (hreverse : s.reverse = .ok s') :
    s'.reverse = .ok s := by
  obtain ⟨-, rfl⟩ := reverse_ok.mp hreverse
  exact reverse_ok.mpr ⟨h.names, rfl⟩

namespace Transformation

variable {t r : Transformation} {ts rs : List Transformation} {before after : Tree}

theorem reverse_ok : t.reverse = .ok r ↔ ∃ s, t.spec.reverse = .ok s ∧ r = { t with spec := s } := by
  rw [reverse, Results.bind_ok]
  exact exists_congr fun s => and_congr_right' (Results.pure_ok.trans eq_comm)

theorem reverse_reverse (h : t.spec.Made) (hreverse : t.reverse = .ok r) : r.reverse = .ok t := by
  obtain ⟨s, hs, rfl⟩ := reverse_ok.mp hreverse
  exact reverse_ok.mpr ⟨t.spec, h.reverse_reverse hs, rfl⟩

theorem length_reverseAll (ts : List Transformation) :
    (reverseAll ts).1.length + (reverseAll ts).2.length = ts.length := by
  induction ts with
  | nil => rfl
  | cons t ts ih =>
    rw [reverseAll]
    cases t.reverse <;> grind

/-- Where each transformation has a reverse, these are all there is, in the opposite order. -/
theorem reverseAll_turned (h : List.Forall₂ (fun t r => t.reverse = .ok r) ts rs) :
    reverseAll ts = (rs.reverse, []) := by
  induction h with
  | nil => rfl
  | cons ht _ ih => rw [reverseAll, ih, ht, List.reverse_cons]

theorem exists_turned (h : (reverseAll ts).2 = []) :
    ∃ rs, List.Forall₂ (fun t r => t.reverse = .ok r) ts rs := by
  induction ts with
  | nil => exact ⟨[], .nil⟩
  | cons t ts ih =>
    rw [reverseAll] at h
    cases ht : t.reverse with
    | error e => simp [ht] at h
    | ok r =>
      obtain ⟨rs, hrs⟩ := ih (by simpa [ht] using h)
      exact ⟨r :: rs, .cons ht hrs⟩

theorem reverseAll_ok : reverseAll ts = (rs, []) ↔ List.Forall₂ (fun t r => t.reverse = .ok r) ts rs.reverse := by
  constructor
  · intro h
    obtain ⟨turned, hturned⟩ := exists_turned (congrArg Prod.snd h)
    rw [reverseAll_turned hturned] at h
    rwa [← (Prod.mk.inj h).1, List.reverse_reverse]
  · intro h
    rw [reverseAll_turned h, List.reverse_reverse]

theorem reverseAll_reverseAll (hmade : ∀ t ∈ ts, t.spec.Made) (h : reverseAll ts = (rs, [])) :
    reverseAll rs = (ts, []) := by
  have hturned := (List.forall₂_and_left _ _).mpr ⟨hmade, reverseAll_ok.mp h⟩
  have hback : List.Forall₂ (fun r t => r.reverse = .ok t) rs.reverse ts :=
    (hturned.imp fun _ _ hone => reverse_reverse hone.1 hone.2).flip
  rw [reverseAll_ok]
  simpa using List.rel_reverse hback

/-- A transformation is applied to a tree without a failure, and leaves another tree. -/
structure Leads (root : String) (env : Environment) (t : Transformation) (before after : Tree) : Prop where
  succeeds : ∃ result, (t.apply root env before).result = .ok result ∧ result.ok = true
  leaves : (t.apply root env before).tree = after

/-- The tree after a number of transformations. -/
def stage (root : String) (env : Environment) (ts : List Transformation) (tree : Tree) (i : Nat) : Tree :=
  (applyAll root env (ts.take i) tree).tree

theorem stage_zero : stage root env ts tree 0 = tree := rfl

theorem stage_length : stage root env ts tree ts.length = (applyAll root env ts tree).tree := by
  rw [stage, List.take_length]

theorem Leads.applyAll_cons (h : t.Leads root env before after) (ts : List Transformation) :
    ∃ result, result.ok = true ∧
      (applyAll root env (t :: ts) before).tree = (applyAll root env ts after).tree ∧
      (applyAll root env (t :: ts) before).result = (applyAll root env ts after).result.map (result :: ·) := by
  obtain ⟨⟨result, hresult, hok⟩, rfl⟩ := h
  rw [Transformation.applyAll_cons hresult hok]
  exact ⟨result, hok, rfl, rfl⟩

theorem Leads.stage_succ (h : t.Leads root env before after) (ts : List Transformation) (i : Nat) :
    stage root env (t :: ts) before (i + 1) = stage root env ts after i := by
  obtain ⟨-, -, htree, -⟩ := h.applyAll_cons (ts.take i)
  exact htree

theorem succeeds_cons : Succeeds root env (t :: ts) tree ↔
    ∃ next, t.Leads root env tree next ∧ Succeeds root env ts next := by
  constructor
  · intro h
    obtain ⟨results, hresults, hok⟩ := h
    obtain ⟨first, ht, ⟨hfirst, rfl⟩ | ⟨hfirst, later, hlater, rfl⟩⟩ := applyAll_cons_ok hresults
    · rw [hok first List.mem_cons_self] at hfirst
      cases hfirst
    · exact ⟨_, ⟨⟨first, ht, hfirst⟩, rfl⟩, later, hlater, fun r hr => hok r (List.mem_cons_of_mem _ hr)⟩
  · intro h
    obtain ⟨next, ht, later, hlater, hok⟩ := h
    obtain ⟨first, hfirst, -, hresult⟩ := ht.applyAll_cons ts
    rw [hlater] at hresult
    exact ⟨first :: later, hresult, List.forall_mem_cons.mpr ⟨hfirst, hok⟩⟩

/-- Transformations that lead back over each step lead back over the whole way. -/
theorem retraces {undoing : Environment} (hturned : List.Forall₂ (fun t r => t.reverse = .ok r) ts rs)
    (h : Succeeds root env ts tree)
    (hback : ∀ i (hi : i < ts.length) (r : Transformation), ts[i].reverse = .ok r →
      r.Leads root undoing (stage root env ts tree (i + 1)) (stage root env ts tree i)) :
    ∃ results, (applyAll root undoing rs.reverse (applyAll root env ts tree).tree).result = .ok results ∧
      results.length = ts.length ∧ (∀ r ∈ results, r.ok = true) ∧
      (applyAll root undoing rs.reverse (applyAll root env ts tree).tree).tree = tree := by
  induction hturned generalizing tree with
  | nil => exact ⟨[], rfl, rfl, List.forall_mem_nil _, rfl⟩
  | @cons t r ts rs ht _ ih =>
    obtain ⟨next, hnext, hrest⟩ := succeeds_cons.mp h
    have hlast : r.Leads root undoing next tree := by
      have hfirst := hback 0 (Nat.zero_lt_succ _) r ht
      rwa [hnext.stage_succ, stage_zero, stage_zero] at hfirst
    have hlater : ∀ i (hi : i < ts.length) (r : Transformation), ts[i].reverse = .ok r →
        r.Leads root undoing (stage root env ts next (i + 1)) (stage root env ts next i) := by
      intro i hi r hr
      have hstep := hback (i + 1) (Nat.succ_lt_succ hi) r hr
      rwa [hnext.stage_succ, hnext.stage_succ] at hstep
    obtain ⟨results, hresults, hlength, hok, htree⟩ := ih hrest hlater
    obtain ⟨first, -, hfinal, -⟩ := hnext.applyAll_cons ts
    obtain ⟨result, hresult, hleft, hone⟩ := hlast.applyAll_cons []
    rw [List.reverse_cons, hfinal, applyAll_append _ hresults hok, htree, hone]
    refine ⟨results ++ [result], rfl, by simp [hlength], ?_, hleft⟩
    simpa [or_imp, forall_and] using ⟨hok, hresult⟩

/-- What undoes a list of transformations. The reverses come from the last transformation to the first, and so do
the errors for those that have none. If there are no errors, turning all around again gives the list, and where each
reverse leads from the tree after its transformation to the tree before it, they lead from the last tree to the
first. -/
theorem applyAll_reverseAll (ts : List Transformation) :
    reverseAll ts = (ts.reverse.filterMap (·.reverse.toOption), ts.reverse.filterMap refusal?) ∧
    (reverseAll ts).1.length + (reverseAll ts).2.length = ts.length ∧
    ((∀ t ∈ ts, t.spec.Reachable) → ∀ rs, reverseAll ts = (rs, []) → reverseAll rs = (ts, [])) ∧
    ∀ rs root env undoing tree, reverseAll ts = (rs, []) → Succeeds root env ts tree →
      (∀ i (hi : i < ts.length) (r : Transformation), ts[i].reverse = .ok r →
        r.Leads root undoing (stage root env ts tree (i + 1)) (stage root env ts tree i)) →
      ∃ results, (applyAll root undoing rs (applyAll root env ts tree).tree).result = .ok results ∧
        results.length = ts.length ∧ (∀ r ∈ results, r.ok = true) ∧
        (applyAll root undoing rs (applyAll root env ts tree).tree).tree = tree := by
  refine ⟨reverseAll_eq ts, length_reverseAll ts, fun hreachable rs hrs => ?_, fun rs root env undoing tree hrs => ?_⟩
  · exact reverseAll_reverseAll (fun t ht => (hreachable t ht).made) hrs
  · intro hsucceeds hback
    have hundone := retraces (reverseAll_ok.mp hrs) hsucceeds hback
    rwa [List.reverse_reverse] at hundone

def oneFile (data : List UInt8) : Tree := .directory [("w", .directory [("b", .file data)])]

theorem oneFile_resolve (data : List UInt8) :
    (oneFile data).resolve "w" = .ok (["w"], .directory [("b", .file data)]) :=
  Tree.resolve_name (by decide) rfl fun _ => Tree.noConfusion

theorem oneFile_read (data : List UInt8) : (oneFile data).readFile "w/b" = .ok (["w", "b"], data) := by
  have hpath : Path.below "w" ["b"] = "w/b" := Path.below_name (by decide)
  rw [← hpath]
  exact Tree.readFile_entry (by decide) (oneFile_resolve data) (by decide) rfl

theorem oneFile_walk (data : List UInt8) : (oneFile data).walk {} (Path.normal "w") = ⟨[["b"]], none⟩ := by
  rw [Path.normal_name (by decide)]
  simp [Tree.walk, oneFile_resolve, Tree.walkNode, Tree.walkEntries, Tree.gather, Walk.append, Walk.concat]

theorem oneFile_accepted : ({} : PathFilter).accepts (Path.text ["b"]) = true := by decide +kernel

/-- A specification that gives a file a new text does so in the tree of this one file. -/
theorem leads_oneFile {s : Spec} {r : Replacer} {old new : List UInt8} (hr : s.replacer = .ok r)
    (hchanges : r.changes old = true)
    (hbytes : Encoding.utf8.encode (r.replace (Encoding.utf8.decode old)) = .ok new) :
    Leads "w" {} { spec := s } (oneFile old) (oneFile new) := by
  have hpath : Path.below (Path.normal "w") ["b"] = "w/b" := Path.below_normal (by decide)
  obtain ⟨result, hresult, hok, htree⟩ := apply_one (t := { spec := s }) hr Encoding.ofName?_utf8 oneFile_accepted
    (oneFile_walk old) hpath (oneFile_read old) hchanges hbytes
  exact ⟨⟨result, hresult, hok⟩, htree⟩

/-- Both directions of a specification, tried on a text and on what it becomes. -/
structure Exchanges (s s' : Spec) (old new : List UInt8) : Prop where
  turned : s.reverse = .ok s'
  forth : Leads "w" {} { spec := s } (oneFile old) (oneFile new)
  back : Leads "w" {} { spec := s' } (oneFile new) (oneFile old)

def writesText (old new : List UInt8) (s : Spec) : Bool :=
  s.replacer.toOption.any fun r => r.changes old &&
    decide (Encoding.utf8.encode (r.replace (Encoding.utf8.decode old)) = .ok new)

theorem leads_of_writesText {s : Spec} {old new : List UInt8} (h : writesText old new s = true) :
    Leads "w" {} { spec := s } (oneFile old) (oneFile new) := by
  obtain ⟨r, hr, hboth⟩ := Results.exists_ok h
  obtain ⟨hchanges, hbytes⟩ := Bool.and_eq_true_iff.mp hboth
  exact leads_oneFile hr hchanges (of_decide_eq_true hbytes)

theorem exists_exchanges {source : SpecSource} {old new : List UInt8}
    (h : (Spec.create source).toOption.any (fun s => writesText old new s &&
      s.reverse.toOption.any (writesText new old)) = true) :
    ∃ s s', Spec.create source = .ok s ∧ Exchanges s s' old new := by
  obtain ⟨s, hs, hboth⟩ := Results.exists_ok h
  obtain ⟨hforth, hturned⟩ := Bool.and_eq_true_iff.mp hboth
  obtain ⟨s', hs', hback⟩ := Results.exists_ok hturned
  exact ⟨s, s', hs, hs', leads_of_writesText hforth, leads_of_writesText hback⟩

theorem applyAll_reverseAll_letters : ∃ t u t' u' : Transformation,
    Spec.create { before := "x", after := "y" } = .ok t.spec ∧
    Spec.create { before := "y", after := "z" } = .ok u.spec ∧
    reverseAll [t, u] = ([u', t'], []) ∧ reverseAll [u', t'] = ([t, u], []) ∧
    (applyAll "w" {} [t, u] (oneFile [0x78])).tree = oneFile [0x7A] ∧
    ∃ results, (applyAll "w" {} [u', t'] (oneFile [0x7A])).result = .ok results ∧ results.length = 2 ∧
      (∀ r ∈ results, r.ok = true) ∧ (applyAll "w" {} [u', t'] (oneFile [0x7A])).tree = oneFile [0x78] := by
  obtain ⟨s, s', hs, hst⟩ : ∃ s s', Spec.create { before := "x", after := "y" } = .ok s ∧
    Exchanges s s' [0x78] [0x79] := exists_exchanges (by decide)
  obtain ⟨v, v', hv, hvw⟩ : ∃ s s', Spec.create { before := "y", after := "z" } = .ok s ∧
    Exchanges s s' [0x79] [0x7A] := exists_exchanges (by decide)
  let ts : List Transformation := [{ spec := s }, { spec := v }]
  have ht : reverse { spec := s } = .ok { spec := s' } := reverse_ok.mpr ⟨s', hst.turned, rfl⟩
  have hu : reverse { spec := v } = .ok { spec := v' } := reverse_ok.mpr ⟨v', hvw.turned, rfl⟩
  have hturned : reverseAll ts = ([{ spec := v' }, { spec := s' }], []) := reverseAll_turned (.cons ht (.cons hu .nil))
  have hmiddle : stage "w" {} ts (oneFile [0x78]) 1 = oneFile [0x79] := hst.forth.stage_succ _ 0
  have hlast : stage "w" {} ts (oneFile [0x78]) 2 = oneFile [0x7A] :=
    (hst.forth.stage_succ _ 1).trans (hvw.forth.stage_succ _ 0)
  have hreachable : ∀ t ∈ ts, t.spec.Reachable := by
    simpa [ts] using And.intro (Spec.Reachable.create hs) (Spec.Reachable.create hv)
  have hsucceeds : Succeeds "w" {} ts (oneFile [0x78]) :=
    succeeds_cons.mpr ⟨_, hst.forth, succeeds_cons.mpr ⟨_, hvw.forth, [], rfl, List.forall_mem_nil _⟩⟩
  have hback : ∀ i (hi : i < ts.length) (r : Transformation), ts[i].reverse = .ok r →
      r.Leads "w" {} (stage "w" {} ts (oneFile [0x78]) (i + 1)) (stage "w" {} ts (oneFile [0x78]) i) := by
    intro i hi r hr
    match i, hi with
    | 0, _ =>
      obtain rfl := Except.ok.inj (ht.symm.trans hr)
      rw [hmiddle]
      exact hst.back
    | 1, _ =>
      obtain rfl := Except.ok.inj (hu.symm.trans hr)
      rw [hmiddle, hlast]
      exact hvw.back
  obtain ⟨-, -, hagain, hundone⟩ := applyAll_reverseAll ts
  obtain ⟨results, hrun, hlength, hok, htree⟩ := hundone _ "w" {} {} _ hturned hsucceeds hback
  have hfinal : (applyAll "w" {} ts (oneFile [0x78])).tree = oneFile [0x7A] := stage_length.symm.trans hlast
  rw [hfinal] at hrun htree
  exact ⟨_, _, _, _, hs, hv, hturned, hagain hreachable _ hturned, hfinal, results, hrun, hlength, hok, htree⟩

end Transformation

end TemplateSwap
