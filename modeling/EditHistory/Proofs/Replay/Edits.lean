import EditHistory.Proofs.Replay

/-!
# Grouping and styles do not matter

What a history does to a text depends only on its edits: the insertions and deletions among its ungrouped commands, in
order.  Every command finds the document that all edits before it have made, and clamps its positions into that; so
neither the revision nor the groups in which a command stands can be seen from the text, and styles cannot be seen at
all.  This holds of failures too, for a foreign entry is an edit and ends the replay wherever it stands.

## Main definitions

* `Command.edits`, `editsOf` — the edits of commands and of revisions
* `Regroups` — commands that differ in their grouping and in styles only

## Main statements

* `Document.outcome_applyAll_edits` — commands do what their edits do
* `edits_eq_of_regroups`, `regroups_edits` — commands can be regrouped into others just if they have the same edits
* `replayFrom_eq_applyAll_edits` — a replay applies edits, however they are grouped, and can be continued
-/

namespace EditHistory

namespace Command

/-- The edits of commands: their leaves without the styles. -/
def edits (cs : List Command) : List Command :=
  (leavesOfAll cs).filter fun c => !c.isStyle

theorem leavesOfAll_append (cs ds : List Command) :
    leavesOfAll (cs ++ ds) = leavesOfAll cs ++ leavesOfAll ds := by
  induction cs with
  | nil => rfl
  | cons c cs ih => rw [List.cons_append, leavesOfAll, leavesOfAll, ih, List.append_assoc]

theorem leavesOfAll_singleton (c : Command) : leavesOfAll [c] = c.leaves := by
  rw [leavesOfAll, leavesOfAll, List.append_nil]

@[simp] theorem edits_nil : edits [] = [] := rfl

theorem edits_append (cs ds : List Command) : edits (cs ++ ds) = edits cs ++ edits ds := by
  rw [edits, leavesOfAll_append, List.filter_append]
  rfl

theorem edits_cons (c : Command) (cs : List Command) : edits (c :: cs) = edits [c] ++ edits cs :=
  edits_append [c] cs

/-- A group has the edits of its parts. -/
theorem edits_group (parts : List Command) (timestamp : Int) : edits [.group parts timestamp] = edits parts := by
  rw [edits, leavesOfAll_singleton, leaves]
  rfl

end Command

/-- The edits of revisions. -/
def editsOf (revisions : List Revision) : List Command :=
  Command.edits (revisions.flatMap Revision.commands)

theorem editsOf_cons (r : Revision) (rs : List Revision) :
    editsOf (r :: rs) = Command.edits r.commands ++ editsOf rs :=
  Command.edits_append _ _

/-! ### Commands do what their edits do -/

namespace Document

/-- Applying commands one list after the other. -/
theorem outcome_applyAll_append (doc : Document) (first second : List Command) :
    (doc.applyAll (first ++ second)).outcome =
      (doc.applyAll first).outcome.bind fun d => (d.applyAll second).outcome := by
  induction first generalizing doc with
  | nil => rfl
  | cons c cs ih =>
      rw [List.cons_append, applyAll, applyAll, Noted.outcome_bind, Noted.outcome_bind]
      cases (doc.apply c).outcome with
      | error e => rfl
      | ok d => exact ih d

theorem outcome_applyAll_singleton (doc : Document) (c : Command) :
    (doc.applyAll [c]).outcome = (doc.apply c).outcome := by
  rw [applyAll, Noted.outcome_bind]
  cases (doc.apply c).outcome <;> rfl

mutual

/-- The edits of a single command do what the command does. -/
theorem outcome_applyAll_edits_singleton (doc : Document) :
    (c : Command) → (doc.applyAll (Command.edits [c])).outcome = (doc.apply c).outcome
  | .insert .. => outcome_applyAll_singleton doc _
  | .delete .. => outcome_applyAll_singleton doc _
  | .style .. => rfl
  | .group parts timestamp => by
      rw [Command.edits_group, apply]
      exact outcome_applyAll_edits doc parts
  | .foreign _ => outcome_applyAll_singleton doc _

/-- **Commands do what their edits do**, with the same failure if there is one. -/
theorem outcome_applyAll_edits (doc : Document) :
    (cs : List Command) → (doc.applyAll (Command.edits cs)).outcome = (doc.applyAll cs).outcome
  | [] => rfl
  | c :: cs => by
      rw [Command.edits_cons, outcome_applyAll_append, outcome_applyAll_edits_singleton doc c, applyAll,
        Noted.outcome_bind]
      -- The rest starts from the text that the first command leaves, so it has to hold for every text.
      congr 1
      funext d
      exact outcome_applyAll_edits d cs

end

/-- Revisions do what their edits do. -/
theorem outcome_applyAll_editsOf (doc : Document) (rs : List Revision) :
    (doc.applyAll (editsOf rs)).outcome = (doc.applyRevisions rs).outcome := by
  induction rs generalizing doc with
  | nil => rfl
  | cons r rs ih =>
      rw [editsOf_cons, outcome_applyAll_append, outcome_applyAll_edits, applyRevisions, Noted.outcome_bind]
      congr 1
      funext d
      exact ih d

end Document

/-! ### Regrouping -/

/-- Commands that come out of one another by putting commands into a group or taking them out of it, and by adding or
removing styles, at any place and as often as one likes. -/
inductive Regroups : List Command → List Command → Prop where
  | refl (cs : List Command) : Regroups cs cs
  | symm {cs ds : List Command} : Regroups cs ds → Regroups ds cs
  | trans {cs ds es : List Command} : Regroups cs ds → Regroups ds es → Regroups cs es
  | append {cs cs' ds ds' : List Command} : Regroups cs cs' → Regroups ds ds' → Regroups (cs ++ ds) (cs' ++ ds')
  | group (parts : List Command) (timestamp : Int) : Regroups [.group parts timestamp] parts
  | style (start stop : Int) (properties : List (String × Value)) (timestamp : Int) :
      Regroups [.style start stop properties timestamp] []

/-- Regrouping keeps the edits. -/
theorem edits_eq_of_regroups {cs ds : List Command} (regroups : Regroups cs ds) :
    Command.edits cs = Command.edits ds := by
  induction regroups with
  | refl cs => rfl
  | symm _ ih => exact ih.symm
  | trans _ _ first second => exact first.trans second
  | append _ _ first second => rw [Command.edits_append, Command.edits_append, first, second]
  | group parts timestamp => exact Command.edits_group parts timestamp
  | style start stop properties timestamp => rfl

mutual

theorem regroups_edits_singleton : (c : Command) → Regroups [c] (Command.edits [c])
  | .insert .. => .refl _
  | .delete .. => .refl _
  | .style .. => .style ..
  | .group parts timestamp => by
      rw [Command.edits_group]
      exact (Regroups.group parts timestamp).trans (regroups_edits parts)
  | .foreign _ => .refl _

/-- Commands can be regrouped into their edits; so commands with the same edits can be regrouped into one another. -/
theorem regroups_edits : (cs : List Command) → Regroups cs (Command.edits cs)
  | [] => .refl []
  | c :: cs => by
      rw [Command.edits_cons]
      exact Regroups.append (regroups_edits_singleton c) (regroups_edits cs)

end

/-! ### Replays -/

/-- The number of revisions of a replay, which has to be neither negative nor more than there are. -/
theorem take_clamped (revisions : List Revision) (upto : Int) :
    revisions.take (max 0 (min (upto + 1) revisions.length)).toNat = revisions.take (upto + 1).toNat := by
  by_cases within : upto + 1 ≤ revisions.length
  · have same : (max 0 (min (upto + 1) (revisions.length : Int))).toNat = (upto + 1).toNat := by omega
    rw [same]
  · have all : (max 0 (min (upto + 1) (revisions.length : Int))).toNat = revisions.length := by omega
    rw [all, List.take_length, List.take_of_length_le (by omega)]

/-- **A replay applies edits.**  From any text, a replay of a history without foreign entries up to any index arrives at
the text to which the edits of those revisions lead.  It arrives at the same text if commands are moved into other
revisions or groups, or styles are added or removed, anywhere.  And it goes on from the text at any index before,
through the revisions after that. -/
theorem replayFrom_eq_applyAll_edits (start : Document) {revisions : List Revision}
    (real : ∀ r ∈ revisions, r.IsReal) (upto : Int) :
    (∃ text, (replayFrom start revisions upto).outcome = .ok text ∧
      (start.applyAll
        (editsOf (revisions.take (max 0 (min (upto + 1) revisions.length)).toNat))).outcome = .ok text) ∧
    (∀ others upto',
      Regroups ((revisions.take (upto + 1).toNat).flatMap Revision.commands)
        ((others.take (upto' + 1).toNat).flatMap Revision.commands) →
      (replayFrom start others upto').outcome = (replayFrom start revisions upto).outcome) ∧
    (∀ index, -1 ≤ index → index ≤ upto → ∃ text, (replayFrom start revisions index).outcome = .ok text ∧
      (text.applyRevisions ((revisions.take (upto + 1).toNat).drop (index + 1).toNat)).outcome =
        (replayFrom start revisions upto).outcome) := by
  have applies (index : Int) : ∃ text, (replayFrom start revisions index).outcome = .ok text :=
    start.exists_applyRevisions _ fun r mem => real r (List.mem_of_mem_take mem)
  refine ⟨?_, ?_, ?_⟩
  · obtain ⟨text, replayed⟩ := applies upto
    refine ⟨text, replayed, ?_⟩
    rw [take_clamped, Document.outcome_applyAll_editsOf]
    exact replayed
  · intro others upto' regroups
    have same : editsOf (revisions.take (upto + 1).toNat) = editsOf (others.take (upto' + 1).toNat) :=
      edits_eq_of_regroups regroups
    rw [replayFrom, replayFrom, ← Document.outcome_applyAll_editsOf, ← Document.outcome_applyAll_editsOf, same]
  · intro index low before
    obtain ⟨text, replayed⟩ := applies index
    refine ⟨text, replayed, ?_⟩
    have fewer : (index + 1).toNat ≤ (upto + 1).toNat := by omega
    have whole := start.outcome_applyRevisions_take revisions fewer
    rw [replayFrom] at replayed
    rw [replayFrom, whole, replayed]
    rfl

/-- Two revisions, the first with a group inside a group, with positions outside the text and with a style. -/
def nestedHistory : List Revision :=
  [⟨"1", 1, [.group [.insert (-3) ['b', 'a'] 1, .group [.delete 9 (-9) 1, .style 0 40 [] 1] 1] 1], none⟩,
    ⟨"2", 2, [.delete 1 7 2], none⟩]

/-- The same edits, all in one revision and without the style. -/
def flatHistory : List Revision :=
  [⟨"1", 1, [.insert (-3) ['b', 'a'] 1, .delete 9 (-9) 1, .delete 1 7 2], none⟩]

theorem replayFrom_eq_applyAll_edits_of_nested :
    (∀ r ∈ nestedHistory, r.IsReal) ∧
    Regroups ((nestedHistory.take 6).flatMap Revision.commands) ((flatHistory.take 1).flatMap Revision.commands) ∧
    (∃ text, (replayFrom ['c'] nestedHistory 5).outcome = .ok text ∧
      (Document.applyAll ['c'] (editsOf (nestedHistory.take 2))).outcome = .ok text) ∧
    (replayFrom ['c'] flatHistory 0).outcome = (replayFrom ['c'] nestedHistory 5).outcome ∧
    (∃ text, (replayFrom ['c'] nestedHistory 0).outcome = .ok text ∧
      (text.applyRevisions ((nestedHistory.take 6).drop 1)).outcome = (replayFrom ['c'] nestedHistory 5).outcome) := by
  have real : ∀ r ∈ nestedHistory, r.IsReal := by decide
  have regroups : Regroups ((nestedHistory.take 6).flatMap Revision.commands)
      ((flatHistory.take 1).flatMap Revision.commands) := by
    have inner := (Regroups.group [.delete 9 (-9) 1, .style 0 40 [] 1] 1).trans
      (Regroups.append (.refl [.delete 9 (-9) 1]) (.style 0 40 [] 1))
    have outer := (Regroups.group _ 1).trans (Regroups.append (.refl [.insert (-3) ['b', 'a'] 1]) inner)
    have both := Regroups.append outer (.refl [.delete 1 7 2])
    exact both
  obtain ⟨edits, regrouped, continued⟩ := replayFrom_eq_applyAll_edits ['c'] real 5
  exact ⟨real, regroups, edits, regrouped flatHistory 0 regroups, continued 0 (by decide) (by decide)⟩

end EditHistory
