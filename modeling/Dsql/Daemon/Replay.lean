import Dsql.Daemon.Runs

/-!
# Replays

A batch that changes nothing is answered with the last outcome.  Refusing a
batch records no outcome and drops its good paths, so a later batch may repeat
a success that no longer holds.  The results say for which runs this does not
happen.
-/

namespace Dsql

namespace Daemon

def WireResponse.replayed : WireResponse → WireResponse
  | .success result => .success { result with changed := false }
  | .error failure => .error failure

theorem renderOutcome_replayed (outcome : Outcome) :
    renderOutcome outcome true = (renderOutcome outcome false).replayed := by
  cases outcome with
  | success result lock => rfl
  | error error published => rfl

/-- Paths that a request reported and that have not changed since. -/
def Followed (base : FilePath) : List Exchange → TreePath → Prop
  | [], _ => False
  | exchange :: earlier, path =>
      exchange.Reports base path ∨
        Followed base earlier path ∧ exchange.Unchanged earlier path

namespace Session

variable (library : ProjectLibrary)

/-- The answer to the latest request that was no replay. -/
def latest (start : Session) : List Exchange → Option WireResponse
  | [] => none
  | exchange :: earlier =>
      if ((start.after library earlier).serve library exchange).replay then
        latest start earlier
      else
        some ((start.after library earlier).serve library exchange).response

/-- Whether the documents at a path are exactly the source that the disk has
there. -/
def HoldsDisk
    (session : Session)
    (disk : Disk)
    (path : TreePath) : Prop :=
  session.documents.filter (fun document => document.path = path) =
    (session.sourceAt library disk path).toList

/-- A replay repeats the answer to the latest request that was none, and after
a success the documents at every followed path are those of the disk. -/
structure NeverStale
    (start : Session)
    (exchange : Exchange)
    (earlier : List Exchange) : Prop where
  replays :
    ((start.after library earlier).serve library exchange).replay = true →
    ∃ response, start.latest library earlier = some response ∧
      ((start.after library earlier).serve library exchange).response =
        response.replayed
  fresh : ∀ result,
    ((start.after library earlier).serve library exchange).response =
      .success result →
    ∀ path, Named path → Followed start.base (exchange :: earlier) path →
      (start.after library (exchange :: earlier)).HoldsDisk library
        exchange.disk path

/-- Whether a request was refused while its paths were classified. -/
def Refused
    (start : Session)
    (exchange : Exchange)
    (earlier : List Exchange) : Prop :=
  ∃ error, (start.after library earlier).plan library exchange = .error error

/-- Whether the request before was refused. -/
def AfterRefusal (start : Session) : List Exchange → Prop
  | [] => False
  | exchange :: earlier => start.Refused library exchange earlier

/-- Paths of refused requests that no request took up since and that have not
changed since. -/
def Pending (start : Session) : List Exchange → TreePath → Prop
  | [], _ => False
  | exchange :: earlier, path =>
      start.Refused library exchange earlier ∧
        (exchange.Reports start.base path ∨
          Pending start earlier path ∧ exchange.Unchanged earlier path)

/-- A request that the daemon can follow by itself: the configuration is
spelled plainly, and a batch that is no reload has plain paths. -/
structure PlainRequest
    (start : Session)
    (exchange : Exchange)
    (earlier : List Exchange) : Prop where
  config : ∀ config,
    loadConfig library exchange.disk start.base = .ok config →
    PlainConfig exchange.disk start.base config
  batch : ∀ plan,
    (start.after library earlier).plan library exchange = .ok plan →
    plan.isReload = false → ∀ paths,
    exchange.request = .filesChanged (some paths) →
    (start.after library earlier).PlainBatch library exchange.disk paths

/-- A request that makes up for refused ones: right after a refusal a batch
that is not refused changes something, and unless it is a reload it reports the
pending paths again. -/
structure MakesUp
    (start : Session)
    (exchange : Exchange)
    (earlier : List Exchange) : Prop where
  changes : start.AfterRefusal library earlier →
    (start.after library earlier).plan library exchange ≠ .ok .noOp
  again : ∀ plan,
    (start.after library earlier).plan library exchange = .ok plan →
    plan.isReload = false → ∀ path,
    start.Pending library earlier path → exchange.Unchanged earlier path →
    exchange.Reports start.base path

section Invariant

variable {library : ProjectLibrary} {start : Session}

/-- The documents after a history, against the disk of its last request. -/
def Holds
    (library : ProjectLibrary)
    (start : Session)
    (current : TreePath → Prop)
    (history : List Exchange) : Prop :=
  (start.after library history).resident = none ∨
    ∃ exchange ∈ history.head?,
      (start.after library history).Tracked library exchange.disk current

/-- The documents before a request, against the disk that it meets. -/
theorem Holds.meets
    {current : TreePath → Prop}
    {earlier : List Exchange}
    (h : Holds library start current earlier)
    (exchange : Exchange) :
    (start.after library earlier).resident = none ∨
      (start.after library earlier).Tracked library exchange.disk
        (fun path => current path ∧ exchange.Unchanged earlier path) := by
  rcases h with hnone | ⟨previous, hprevious, htracked⟩
  · exact .inl hnone
  · refine .inr (htracked.on.mono ?_)
    rintro path ⟨hcurrent, hsame⟩
    exact ⟨hcurrent, hsame previous hprevious⟩

/-- The paths up to date after an accepted request. -/
theorem holds_accepted
    (hglob : GlobLaws library.glob)
    (hbase : PlainBase start.base)
    {current : TreePath → Prop}
    {exchange : Exchange}
    {earlier : List Exchange}
    (h : Holds library start current earlier)
    (hplain : start.PlainRequest library exchange earlier)
    {plan : BatchPlan}
    (hplan : (start.after library earlier).plan library exchange = .ok plan) :
    Holds library start (fun path => plan.isReload = true ∨
      exchange.Reports start.base path ∨
        current path ∧ exchange.Unchanged earlier path)
      (exchange :: earlier) := by
  obtain ⟨hsame, -⟩ := sameRoots_after library start earlier
  have hconfig := hplain.config
  rw [hsame] at hbase hconfig
  have htracked := serve_tracked hglob hbase (h.meets exchange) hconfig hplan
    (hplain.batch plan hplan)
  rw [← hsame] at htracked
  rcases htracked with hnone | htracked
  · exact .inl hnone
  · exact .inr ⟨exchange, rfl, htracked⟩

/-- A refused request changes nothing. -/
theorem holds_refused
    {current : TreePath → Prop}
    {exchange : Exchange}
    {earlier : List Exchange}
    (h : Holds library start current earlier)
    (hrefused : start.Refused library exchange earlier) :
    Holds library start
      (fun path => current path ∧ exchange.Unchanged earlier path)
      (exchange :: earlier) := by
  obtain ⟨error, hplan⟩ := hrefused
  have hsame : start.after library (exchange :: earlier) =
      start.after library earlier := by
    rw [after, serve_refused hplan]
  unfold Holds
  rw [hsame]
  rcases h.meets exchange with hnone | htracked
  · exact .inl hnone
  · exact .inr ⟨exchange, rfl, htracked⟩

theorem Holds.mono
    {current fewer : TreePath → Prop}
    {history : List Exchange}
    (h : Holds library start current history)
    (hfewer : ∀ path, fewer path → current path) :
    Holds library start fewer history := by
  rcases h with hnone | ⟨exchange, hexchange, htracked⟩
  · exact .inl hnone
  · exact .inr ⟨exchange, hexchange, htracked.mono hfewer⟩

/-- What is followed and not pending is up to date. -/
theorem holds_followed
    (hglob : GlobLaws library.glob)
    (hbase : PlainBase start.base)
    {exchange : Exchange}
    {earlier : List Exchange}
    (h : Holds library start (fun path => Followed start.base earlier path ∧
      ¬start.Pending library earlier path) earlier)
    (hplain : start.PlainRequest library exchange earlier)
    (hmakes : start.MakesUp library exchange earlier) :
    Holds library start (fun path =>
      Followed start.base (exchange :: earlier) path ∧
        ¬start.Pending library (exchange :: earlier) path)
      (exchange :: earlier) := by
  cases hplan : (start.after library earlier).plan library exchange with
  | error error =>
      have hrefused : start.Refused library exchange earlier := ⟨error, hplan⟩
      refine (holds_refused h hrefused).mono ?_
      rintro path ⟨hreported | ⟨hfollowed, hsame⟩, hpending⟩
      · exact absurd ⟨hrefused, .inl hreported⟩ hpending
      · refine ⟨⟨hfollowed, fun hbefore => ?_⟩, hsame⟩
        exact hpending ⟨hrefused, .inr ⟨hbefore, hsame⟩⟩
  | ok plan =>
      refine (holds_accepted hglob hbase h hplain hplan).mono ?_
      rintro path ⟨hreported | ⟨hfollowed, hsame⟩, -⟩
      · exact .inr (.inl hreported)
      · cases hreload : plan.isReload with
        | true => exact .inl rfl
        | false =>
            right
            by_cases hpending : start.Pending library earlier path
            · exact .inl (hmakes.again plan hplan hreload path hpending hsame)
            · exact .inr ⟨⟨hfollowed, hpending⟩, hsame⟩

/-- The recorded outcome is the latest one, unless a request was refused
since. -/
def Records
    (library : ProjectLibrary)
    (start : Session)
    (history : List Exchange) : Prop :=
  (start.after library history).resident = none ∨
    start.AfterRefusal library history ∨
    ∀ outcome, (start.after library history).last = some outcome →
      start.latest library history = some (renderOutcome outcome false)

theorem last_record (session : Session) (outcome : Outcome) :
    (session.record outcome).last = some outcome := rfl

theorem records_step
    {exchange : Exchange}
    {earlier : List Exchange}
    (h : Records library start earlier)
    (hmakes : start.MakesUp library exchange earlier) :
    Records library start (exchange :: earlier) := by
  cases hplan : (start.after library earlier).plan library exchange with
  | error error => exact .inr (.inl ⟨error, hplan⟩)
  | ok plan =>
      rcases compilePlan_cases library (start.after library earlier)
        exchange.disk exchange.attempt plan with
        ⟨documents, outcome, rfl, hresident, hlast, hserve⟩ |
          ⟨failed, error, -, hserve⟩ | ⟨applied, -, hserve⟩
      all_goals rw [← serve_planned hplan] at hserve
      · rcases h with hnone | hrefused | hrecorded
        · rw [hresident] at hnone
          cases hnone
        · exact absurd hplan (hmakes.changes hrefused)
        · right
          right
          intro recorded hrecord
          rw [after, hserve] at hrecord
          rw [latest, hserve, if_pos rfl]
          exact hrecorded recorded hrecord
      · left
        rw [after, hserve]
      · right
        right
        intro recorded hrecord
        rw [after, hserve, last_record] at hrecord
        cases hrecord
        rw [latest, hserve, if_neg (by simp)]

/-- A replay repeats the latest answer. -/
theorem replays_of_records
    {exchange : Exchange}
    {earlier : List Exchange}
    (h : Records library start earlier)
    (hmakes : start.MakesUp library exchange earlier)
    (hreplay :
      ((start.after library earlier).serve library exchange).replay = true) :
    ∃ response, start.latest library earlier = some response ∧
      ((start.after library earlier).serve library exchange).response =
        response.replayed := by
  cases hplan : (start.after library earlier).plan library exchange with
  | error error =>
      rw [serve_refused hplan] at hreplay
      cases hreplay
  | ok plan =>
      rcases compilePlan_cases library (start.after library earlier)
        exchange.disk exchange.attempt plan with
        ⟨documents, outcome, rfl, hresident, hlast, hserve⟩ |
          ⟨failed, error, -, hserve⟩ | ⟨applied, -, hserve⟩
      all_goals rw [← serve_planned hplan] at hserve
      · rcases h with hnone | hrefused | hrecorded
        · rw [hresident] at hnone
          cases hnone
        · exact absurd hplan (hmakes.changes hrefused)
        · refine ⟨_, hrecorded outcome hlast, ?_⟩
          rw [hserve]
          exact renderOutcome_replayed outcome
      · rw [hserve] at hreplay
        cases hreplay
      · rw [hserve] at hreplay
        cases hreplay

/-- A success is answered from resident documents. -/
theorem resident_of_success
    {session : Session}
    {exchange : Exchange}
    {result : CompileResult}
    (h : (session.serve library exchange).response = .success result) :
    (session.serve library exchange).session.resident ≠ none := by
  cases hplan : session.plan library exchange with
  | error error =>
      rw [serve_refused hplan] at h
      cases h
  | ok plan =>
      rcases compilePlan_cases library session exchange.disk exchange.attempt
        plan with
        ⟨documents, outcome, -, hresident, -, hserve⟩ |
          ⟨failed, error, -, hserve⟩ | ⟨applied, happly, hserve⟩
      all_goals rw [← serve_planned hplan] at hserve
      · rw [hserve, hresident]
        simp
      · rw [hserve] at h
        cases h
      · rw [hserve]
        obtain ⟨-, -, -, hrecord⟩ :=
          sameProject_record applied exchange.attempt
        rw [← hrecord]
        cases hreload : plan.isReload with
        | false =>
            obtain ⟨documents, -, -, hresident, -⟩ :=
              batch_of_plan hplan hreload
            obtain ⟨found, hfound, -, -, -, hsame⟩ :=
              apply_of_not_reload library exchange.disk hreload hresident
            rw [happly] at hfound
            cases hfound
            rw [← hsame]
            simp
        | true =>
            obtain ⟨locked, -, hlocked⟩ :=
              apply_of_reload library session exchange.disk hreload
            rw [hlocked] at happly
            cases hreloaded : locked.reload library exchange.disk with
            | error error => rw [hreloaded] at happly; cases happly
            | ok reloaded =>
                rw [hreloaded] at happly
                cases happly
                unfold reload at hreloaded
                obtain ⟨loaded, -, hloaded⟩ := except_bind_ok hreloaded
                cases hloaded
                simp

theorem plan_of_success
    {session : Session}
    {exchange : Exchange}
    {result : CompileResult}
    (h : (session.serve library exchange).response = .success result) :
    ∃ plan, session.plan library exchange = .ok plan := by
  cases hplan : session.plan library exchange with
  | error error =>
      rw [serve_refused hplan] at h
      cases h
  | ok plan => exact ⟨plan, rfl⟩

/-- Documents that are right at a path are its source, once. -/
theorem holdsDisk_of_agrees
    {session : Session}
    {disk : Disk}
    (howned : session.WellOwned library session.documents)
    {path : TreePath}
    (h : session.AgreesAt library disk session.documents path) :
    session.HoldsDisk library disk path := by
  unfold HoldsDisk
  have honce : (session.documents.filter
      (fun document => document.path = path)).Nodup :=
    (List.Nodup.of_map Document.path howned.once).filter _
  have hmem : ∀ document, document ∈ session.documents.filter
      (fun document => document.path = path) ↔
        document ∈ (session.sourceAt library disk path).toList := by
    intro document
    rw [List.mem_filter, decide_eq_true_iff, Option.mem_toList]
    constructor
    · rintro ⟨hdocument, hpath⟩
      exact (h document hpath).mp hdocument
    · intro hsource
      have hpath := sourceAt_path hsource
      exact ⟨(h document hpath).mpr hsource, hpath⟩
  cases hsource : session.sourceAt library disk path with
  | none =>
      refine List.eq_nil_iff_forall_not_mem.mpr ?_
      intro document hdocument
      rw [hmem document, hsource] at hdocument
      cases hdocument
  | some document =>
      refine List.perm_singleton.mp
        ((List.perm_ext_iff_of_nodup honce (List.nodup_singleton _)).mpr ?_)
      intro other
      rw [hmem other, hsource]
      rfl

end Invariant

/-- No run of plain requests that make up for refused ones is answered with a
stale success. -/
theorem neverStale
    (library : ProjectLibrary)
    (hglob : GlobLaws library.glob)
    (start : Session)
    (hfresh : start.IsFresh)
    (hbase : PlainBase start.base)
    (history : List Exchange)
    (h : Throughout (fun exchange earlier =>
      start.PlainRequest library exchange earlier ∧
        start.MakesUp library exchange earlier) history) :
    Throughout (start.NeverStale library) history := by
  refine h.of_invariant (fun history =>
    Holds library start (fun path => Followed start.base history path ∧
      ¬start.Pending library history path) history ∧
    Records library start history) ⟨.inl hfresh.1, .inl hfresh.1⟩ ?_ ?_
  · rintro exchange earlier ⟨hholds, hrecords⟩ ⟨hplain, hmakes⟩
    exact ⟨holds_followed hglob hbase hholds hplain hmakes,
      records_step hrecords hmakes⟩
  · rintro exchange earlier ⟨hholds, hrecords⟩ ⟨hplain, hmakes⟩
    refine ⟨replays_of_records hrecords hmakes, ?_⟩
    intro result hresult path hnamed hfollowed
    obtain ⟨plan, hplan⟩ := plan_of_success hresult
    rcases holds_followed hglob hbase hholds hplain hmakes with
      hnone | ⟨previous, hprevious, htracked⟩
    · exact absurd hnone (resident_of_success hresult)
    · cases hprevious
      refine holdsDisk_of_agrees htracked.owned (htracked.agrees path hnamed
        ⟨hfollowed, ?_⟩)
      rintro ⟨⟨error, hrefused⟩, -⟩
      rw [hplan] at hrefused
      cases hrefused

/-! ## A refused batch -/

section Sample

def queryDisk
    (first second : FileContent) : Disk :=
  sampleDisk [("a.dsql", .file first), ("b.dsql", .file second)] (by
    intro entry hentry
    rcases List.mem_cons.mp hentry with rfl | hentry
    · exact ⟨by simp [IsName], hasNames_file first⟩
    · rw [List.mem_singleton.mp hentry]
      exact ⟨by simp [IsName], hasNames_file second⟩)

def sampleSuccess (generationId : Nat) : Outcome :=
  .success ⟨generationId, true⟩ none

/-- The first query changes in a batch with a second one that cannot be read;
then a batch names a file that is no document. -/
def staleHistory : List Exchange :=
  [⟨queryDisk (.text "query A changed") .unreadable,
      .filesChanged (some ["README.md"]), sampleSuccess 3⟩,
    ⟨queryDisk (.text "query A changed") .unreadable,
      .filesChanged (some ["queries/a.dsql", "queries/b.dsql"]),
      sampleSuccess 2⟩,
    ⟨queryDisk (.text "query A") (.text "query B"), .compile, sampleSuccess 1⟩]

theorem stale_success :
    ¬∀ (library : ProjectLibrary) (start : Session) (history : List Exchange),
      GlobLaws library.glob → start.IsFresh → PlainBase start.base →
      Throughout (start.NeverStale library) history := by
  intro h
  obtain ⟨hnever, -⟩ := h sampleLibrary sampleSession staleHistory
    sampleGlob_laws sampleSession_fresh sampleSession_base
  obtain ⟨response, hlatest, hresponse⟩ := hnever.replays rfl
  cases hlatest
  cases hresponse

/-- A batch with a path outside the project is refused; the next one has its
good path again. -/
def recoveredHistory : List Exchange :=
  [⟨queryDisk (.text "query A changed") (.text "query B"),
      .filesChanged (some ["queries/a.dsql"]), sampleSuccess 2⟩,
    ⟨queryDisk (.text "query A changed") (.text "query B"),
      .filesChanged (some ["queries/a.dsql", "../outside"]), sampleSuccess 2⟩,
    ⟨queryDisk (.text "query A") (.text "query B"), .compile, sampleSuccess 1⟩]

theorem sampleConfig_plain (disk : Disk) :
    PlainConfig disk sampleSession.base sampleConfig := by
  intro group hgroup configured hconfigured
  have hgroup : group = ("default", ⟨"dsql", ["queries"]⟩) := by
    simpa [configuredGroups, Config.documentScopes, sampleConfig] using hgroup
  subst hgroup
  rw [List.mem_singleton.mp hconfigured]
  exact ⟨by decide, fun _ => .inl (by decide)⟩

theorem sampleLibrary_config
    (disk : Disk)
    (config : Config)
    (h : loadConfig sampleLibrary disk sampleSession.base = .ok config) :
    PlainConfig disk sampleSession.base config := by
  cases h
  exact sampleConfig_plain disk

theorem sampleDocuments :
    (sampleSession.after sampleLibrary recoveredHistory.tail).documents =
      [⟨["project", "queries", "a.dsql"], "query A", "default", .dsql⟩,
        ⟨["project", "queries", "b.dsql"], "query B", "default", .dsql⟩] :=
  rfl

theorem plainMention_sample :
    (sampleSession.after sampleLibrary recoveredHistory.tail).PlainMention
      sampleLibrary (queryDisk (.text "query A changed") (.text "query B"))
      ["queries", "a.dsql"] := by
  constructor
  · rintro below (rfl | hbelow)
    · rfl
    · cases below with
      | nil => rfl
      | cons name below => cases hbelow
  · intro document hdocument hstarts text htext hhash
    rw [sampleDocuments] at hdocument
    rcases List.mem_cons.mp hdocument with rfl | hdocument
    · cases htext
      exact absurd hhash (by decide)
    · rw [List.mem_singleton.mp hdocument] at hstarts
      exact absurd hstarts (by decide)
  · intro himplicit
    cases himplicit
  · intro hdirectory
    cases hdirectory
  · intro _ document hdocument hstarts
    rw [sampleDocuments] at hdocument
    rcases List.mem_cons.mp hdocument with rfl | hdocument
    · rfl
    · rw [List.mem_singleton.mp hdocument] at hstarts
      exact absurd hstarts (by decide)
  · intro hlock
    exact absurd hlock (by decide)

theorem neverStale_recovered :
    GlobLaws sampleLibrary.glob ∧ sampleSession.IsFresh ∧
      PlainBase sampleSession.base ∧
      Throughout (sampleSession.NeverStale sampleLibrary)
        recoveredHistory := by
  refine ⟨sampleGlob_laws, sampleSession_fresh, sampleSession_base,
    neverStale sampleLibrary sampleGlob_laws sampleSession
      sampleSession_fresh sampleSession_base recoveredHistory
      ⟨⟨⟨sampleLibrary_config _, ?_⟩, ?_, ?_⟩,
        ⟨⟨sampleLibrary_config _, ?_⟩, ?_, ?_⟩,
        ⟨⟨sampleLibrary_config _, ?_⟩, ?_, ?_⟩, trivial⟩⟩
  · rintro plan - - paths hrequest relative ⟨raw, hraw, hrelative⟩
    cases hrequest
    rw [List.mem_singleton.mp hraw] at hrelative
    cases hrelative
    exact plainMention_sample
  · intro _ hplan
    cases hplan
  · rintro plan - - path ⟨-, hreported | ⟨⟨⟨error, hplan⟩, -⟩, -⟩⟩ -
    · obtain ⟨relative, ⟨raw, hraw, hrelative⟩, hstarts⟩ := hreported
      rcases List.mem_cons.mp hraw with rfl | hraw
      · exact ⟨relative, ⟨_, List.mem_singleton.mpr rfl, hrelative⟩, hstarts⟩
      · rw [List.mem_singleton.mp hraw] at hrelative
        cases hrelative
    · cases hplan
  · intro plan hplan
    cases hplan
  · rintro ⟨error, hplan⟩
    cases hplan
  · intro plan hplan
    cases hplan
  · intro plan hplan hreload
    cases hplan
    cases hreload
  · intro hrefusal
    cases hrefusal
  · rintro plan - - path hpending
    cases hpending

end Sample

end Session

end Daemon

end Dsql
