import Noughts.Proofs.Service.Shutdown

/-!
# What a service that reports success has done

The exit code of a service that was started to serve is zero only if it answered its input to the
end. Then its event file holds a line for each event that was accepted, in order and behind what the
file held before, and standard output holds the responses and nothing else:
`Launch.answered_of_exitCode`. Each part of the program is inverted by a lemma of its own, for the
machine on which nothing is left open.
-/

namespace Noughts

namespace Disk

/-- Under a path whose bytes are replaced are the new ones, if there is such a path. -/
theorem lookup_replaced (files : List (List String × List UInt8)) (path : List String)
    (bytes : List UInt8) :
    (files.map fun (file, old) => (file, if file = path then bytes else old)).lookup path =
      (files.lookup path).map fun _ => bytes := by
  induction files with
  | nil => rfl
  | cons entry files ih =>
      obtain ⟨file, held⟩ := entry
      rw [List.map_cons, List.lookup_cons, List.lookup_cons]
      cases hfile : path == file with
      | true => simp [(beq_iff_eq.1 hfile).symm]
      | false => exact ih

/-- A file holds what was put into it. -/
theorem lookup_put (d : Disk) (path : List String) (bytes : List UInt8) :
    (d.put path bytes).files.lookup path = some bytes := by
  unfold put
  split
  · next hheld =>
    obtain ⟨old, hold⟩ := Option.isSome_iff_exists.1 hheld
    show (d.files.map _).lookup path = some bytes
    rw [lookup_replaced, hold]
    rfl
  · next hnew =>
    have hnone : d.files.lookup path = none := Option.not_isSome_iff_eq_none.1 hnew
    show (d.files ++ [(path, bytes)]).lookup path = some bytes
    rw [List.lookup_append, hnone]
    simp

end Disk

namespace Launch

variable {l : Launch} {t : Traces} {config : ServiceConfig} {settings : EnvFile.Settings}

/-! ## What a job leaves behind -/

/-- The bytes of the lines for events under a topic. -/
def journalBytes (topic : String) (events : List GameEvent) : List UInt8 :=
  utf8Bytes (String.join (events.map fun event => event.journalLine topic))

/-- The responses follow what is on standard output. -/
theorem output_leave (t : Traces) (job : Job (List String × List UInt8)) (s : Running) :
    (leave t job s).output = t.output ++ s.output := by
  unfold leave
  cases job.target <;> rfl

/-- A file that is the target holds the delivered events behind what it held before. -/
theorem lookup_leave {job : Job (List String × List UInt8)} {file : List String}
    {held : List UInt8} (h : job.target = .file (file, held)) (t : Traces) (s : Running) :
    (leave t job s).disk.files.lookup file =
      some (held ++ journalBytes job.topic s.delivered) := by
  unfold leave
  rw [h]
  exact Disk.lookup_put _ _ _

/-! ## The parts of the program -/

/-- Looking at the settings leaves no traces. -/
theorem settings_snd (l : Launch) (t : Traces) : (l.host.settings t).2 = t := by
  have henvironment : l.host.environment t = (l.environment, t) := rfl
  have hread : l.host.readFile ".env" t = (t.disk.read ".env", t) := rfl
  unfold Host.settings
  simp only [bind, StateT.bind, henvironment, hread]
  cases t.disk.read ".env" with
  | error e => rfl
  | ok bytes =>
      dsimp only
      cases String.fromUTF8? ⟨bytes.toArray⟩ <;> rfl

/-- What is said at the beginning is neither on standard output nor in a file. -/
theorem announce_eq (l : Launch) (t : Traces) (topic : String) (filter : LogFilter)
    (notices : List String) :
    ∃ begun, l.host.announce topic filter notices t = ((), begun) ∧
      begun.output = t.output ∧ begun.disk = t.disk := by
  unfold Host.announce
  cases filter.admits .info with
  | true => exact ⟨_, rfl, rfl, rfl⟩
  | false => exact ⟨_, rfl, rfl, rfl⟩

/-- A target that was opened for a path is the file that the disk has there. -/
theorem openTarget_ok {events : EventTarget} {opened : Traces}
    {target : OpenTarget (List String × List UInt8)}
    (h : l.host.openTarget events t = (.ok target, opened)) :
    opened.output = t.output ∧ ∀ path, events = .file path → ∃ file held,
      t.disk.openForAppend path = .ok (file, held) ∧ target = .file (file, held) := by
  cases events with
  | log =>
      cases h
      exact ⟨rfl, nofun⟩
  | stderr =>
      cases h
      exact ⟨rfl, nofun⟩
  | file path =>
      simp only [Host.openTarget, host, bind, StateT.bind] at h
      cases hopen : t.disk.openForAppend path with
      | error e =>
          rw [hopen] at h
          cases h
      | ok found =>
          rw [hopen] at h
          cases h
          exact ⟨rfl, fun _ hpath => EventTarget.file.inj hpath ▸ ⟨_, _, hopen, rfl⟩⟩

/-- With an open target the exit code is zero only if the requests are answered to their end. -/
theorem answer_eq_zero {filter : LogFilter} {target : OpenTarget (List String × List UInt8)}
    (h : (l.host.answer config filter target t).1 = 0) :
    ∃ outbox handled,
      Outbox.new config.outbox.capacity.toNat config.outbox.retryPolicy = .ok outbox ∧
      (l.handle outbox).1 = .ok handled ∧
      (l.host.answer config filter target t).2 =
        leave t ⟨config.topic, filter, target, outbox⟩ (l.handle outbox).2 := by
  unfold Host.answer at h ⊢
  cases hnew : Outbox.new (α := GameEvent) config.outbox.capacity.toNat
    config.outbox.retryPolicy with
  | error e =>
      rw [hnew] at h
      cases h
  | ok outbox =>
      rw [hnew] at h
      simp only [host, bind, StateT.bind] at h ⊢
      rcases hhandle : l.handle outbox with ⟨result, s⟩
      rw [hhandle] at h
      cases result with
      | error e => cases h
      | ok handled =>
          refine ⟨outbox, handled, rfl, congrArg Prod.fst hhandle, ?_⟩
          rw [hhandle]
          rfl

/-- How a service ends that has answered its requests under a configuration: what it has done, and
what it leaves behind of what there was when it began. -/
structure Answered (l : Launch) (config : ServiceConfig) (outbox : Outbox GameEvent)
    (first last : Traces) : Prop where
  made : Outbox.new config.outbox.capacity.toNat config.outbox.retryPolicy = .ok outbox
  handled : ∃ count, (l.handle outbox).1 = .ok count
  /-- The responses are on standard output. -/
  output_eq : last.output = first.output ++ (l.handle outbox).2.output
  /-- Every event that was accepted is delivered, and to a file line by line. -/
  delivered_eq : (l.handle outbox).2.delivered = l.accepted outbox
  file : ∀ path, config.events = .file path → ∃ file held,
    first.disk.openForAppend path = .ok (file, held) ∧
      last.disk.files.lookup file =
        some (held ++ journalBytes config.topic (l.accepted outbox))

/-- Under a configuration the exit code is zero only if an event target was opened and the requests
were answered to their end. -/
theorem serve_eq_zero (h : (l.host.serve settings config t).1 = 0) :
    ∃ outbox, l.Answered config outbox t (l.host.serve settings config t).2 := by
  unfold Host.serve at h ⊢
  generalize config.filter settings = said at h ⊢
  obtain ⟨filter, notices⟩ := said
  obtain ⟨begun, hannounce, hbegun, hdisk⟩ := l.announce_eq t config.topic filter notices
  simp only [bind, StateT.bind, hannounce] at h ⊢
  rcases hopen : l.host.openTarget config.events begun with ⟨result, opened⟩
  rw [hopen] at h
  cases result with
  | error e => cases h
  | ok target =>
      obtain ⟨hopened, htarget⟩ := openTarget_ok hopen
      obtain ⟨outbox, handled, hnew, hhandled, hleft⟩ := answer_eq_zero h
      have hdelivered := (l.ends_delivered (fun _ => 0) hnew).2.2 handled hhandled
      refine ⟨outbox, hnew, ⟨handled, hhandled⟩, ?_, hdelivered, fun path hpath => ?_⟩
      · show (l.host.answer config filter target opened).2.output = _
        rw [hleft, output_leave, hopened, hbegun]
      · obtain ⟨file, held, hfile, hjob⟩ := htarget path hpath
        refine ⟨file, held, hdisk ▸ hfile, ?_⟩
        show (l.host.answer config filter target opened).2.disk.files.lookup file = _
        rw [hleft, lookup_leave hjob, hdelivered]

/-- A command to serve needs a configuration. -/
theorem obey_eq_zero {arguments : List String} {options : Options}
    (hcommand : Command.parse arguments = .ok (.run options))
    (h : (l.host.obey settings arguments t).1 = 0) :
    ∃ config, options.resolve l.report (options.config?.map t.disk.read) = .ok config ∧
      l.host.obey settings arguments t = l.host.serve settings config t := by
  have hcontents : options.config?.mapM l.host.readFile t =
      (options.config?.map t.disk.read, t) := by
    cases options.config? <;> rfl
  have hreport : l.host.report = l.report := rfl
  unfold Host.obey at h ⊢
  simp only [hcommand, bind, StateT.bind, hcontents, hreport] at h ⊢
  cases hresolve : options.resolve l.report (options.config?.map t.disk.read) with
  | error e =>
      rw [hresolve] at h
      cases h
  | ok config => exact ⟨config, rfl, rfl⟩

/-! ## The program -/

/-- The exit code is zero only if there were settings under which to obey the command line. -/
theorem run_eq_zero (h : l.run.exitCode = 0) :
    ∃ settings, l.host.run l.arguments l.before = l.host.obey settings l.arguments l.before := by
  have hexit : (l.host.run l.arguments l.before).1 = 0 := h
  have htraces := l.settings_snd l.before
  unfold Host.run at hexit ⊢
  simp only [bind, StateT.bind] at hexit ⊢
  generalize l.host.settings l.before = looked at htraces hexit ⊢
  obtain ⟨result, after⟩ := looked
  obtain rfl : after = l.before := htraces
  cases result with
  | error e => cases hexit
  | ok settings => exact ⟨settings, rfl⟩

/-- A service that was started to serve and reports success has answered its whole input. On
standard output are the responses, and in the event file, if there is one, is a line for each event
that was accepted, behind what the file held before. -/
theorem answered_of_exitCode {options : Options}
    (hcommand : Command.parse l.arguments = .ok (.run options)) (hexit : l.run.exitCode = 0) :
    ∃ config outbox, options.resolve l.report (options.config?.map l.disk.read) = .ok config ∧
      l.Answered config outbox l.before l.run.toTraces := by
  obtain ⟨settings, hrun⟩ := run_eq_zero hexit
  have hcode : (l.host.run l.arguments l.before).1 = 0 := hexit
  rw [hrun] at hcode
  obtain ⟨config, hresolved, hserve⟩ := obey_eq_zero hcommand hcode
  rw [hserve] at hcode
  obtain ⟨outbox, hanswered⟩ := serve_eq_zero hcode
  refine ⟨config, outbox, hresolved, ?_⟩
  have htraces : l.run.toTraces = (l.host.run l.arguments l.before).2 := rfl
  rw [htraces, hrun, hserve]
  exact hanswered

end Launch

end Noughts
