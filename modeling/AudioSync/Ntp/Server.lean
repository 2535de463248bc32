import AudioSync.Ntp.Msntp
import AudioSync.Lib.Transition

/-! `SenderSession::RunNTPServer`: the thread of each sender session that serves the
time, over the socket table that all sessions share. -/
namespace AudioSync.Ntp

open Transition

/-- `AUDIOSYNC_SNTP_PORT_OFFSET`. -/
def AUDIOSYNC_SNTP_PORT_OFFSET : Nat := 3

/-- Where a session's `RunNTPServer` stands: before `msntp_start_server`, at the
loop's condition, before `msntp_serve`, or returned from one of the three places. -/
inductive ServerThread where
  | starting
  | checking
  | serving
  | refused
  | left
  | stopped
  deriving DecidableEq, Repr

/-- A sender session with its `ntpThread`. -/
structure SenderSession where
  isRunning : Bool
  ntpThread : ServerThread
  deriving DecidableEq, Repr

/-- The process: the sessions of its history, the portbase of the latest of them
(in the global `transparams`), and libmsntp's globals. -/
structure Server where
  sessions : List SenderSession
  portbase : Nat
  library : Library

/-- What happens in any order: the calls of the user, a step of a session's thread
(with the descriptor the system would give it), a datagram at the SNTP port. -/
inductive ServerEvent where
  | startStreaming (portbase : BitVec 16)
  | stop (i : Nat)
  | advance (i fd : Nat)
  | datagram (bytes : List Byte)

namespace Server

def initial : Server := ⟨[], 0, Library.loaded⟩

/-- Set the thread of the session with this index. -/
def put (server : Server) (i : Nat) (thread : ServerThread) : Server :=
  { server with sessions := server.sessions.modify i fun session =>
      { session with ntpThread := thread } }

/-- `RunNTPServer`, from one of its points to the next. -/
def runNTPServer (server : Server) (i fd : Nat) (session : SenderSession) : Option Server :=
  match session.ntpThread with
  | .starting =>
      let port := server.portbase + AUDIOSYNC_SNTP_PORT_OFFSET
      let (ret, library) := server.library.openSocket 0 fd port
      some ({ server with library := library }.put i (if ret ≠ 0 then .refused else .checking))
  | .checking =>
      if session.isRunning then some (server.put i .serving)
      else some ({ server with library := server.library.closeSocket 0 }.put i .stopped)
  | .serving =>
      let (ret, library) := server.library.serve
      some ({ server with library := library }.put i
        (if 0 < ret ∨ ret < -1 then .left else .checking))
  | .refused => none
  | .left => none
  | .stopped => none

def step (server : Server) : ServerEvent → Option Server
  | .startStreaming portbase => some { server with
      sessions := server.sessions ++ [⟨true, .starting⟩]
      portbase := portbase.toNat }
  | .stop i => some { server with sessions := server.sessions.modify i fun session =>
      { session with isRunning := false } }
  | .advance i fd => server.sessions[i]?.bind fun session => server.runNTPServer i fd session
  | .datagram bytes => some { server with library := server.library.arrive 0 bytes }

end Server

/-- The thread is inside the serving loop. -/
def ServerThread.inLoop : ServerThread → Bool
  | .checking => true
  | .serving => true
  | _ => false

/-- The thread has been in the serving loop and is so no longer. -/
def ServerThread.afterLoop : ServerThread → Bool
  | .left => true
  | .stopped => true
  | _ => false

namespace Server

/-- The loop has been left only by sessions that are not running any more, and when
no session is in it, the server can be started. -/
structure Survives (server : Server) : Prop where
  running : ∀ (i : Nat) (session : SenderSession), server.sessions[i]? = some session →
    session.ntpThread.afterLoop = true → session.isRunning = false
  restarts : (∀ (i : Nat) (session : SenderSession), server.sessions[i]? = some session →
    session.ntpThread.inLoop = false) → ∀ fd port, (server.library.openSocket 0 fd port).1 = 0

/-- `msntp_serve` is not called while the datagram it would read is one it rejects. -/
def ServesAccepted (server : Server) : ServerEvent → Prop
  | .advance i _ => ∀ session, server.sessions[i]? = some session →
      session.ntpThread = .serving → ∀ socket, server.library.descriptors 0 = some socket →
        ∀ datagram ∈ socket.waiting.head?, Accepted datagram
  | _ => True

/-- One session at most is in its loop, and the socket is open while it is. -/
structure OneServer (server : Server) : Prop where
  one : ∀ (i j : Nat) (first second : SenderSession), server.sessions[i]? = some first →
    server.sessions[j]? = some second → first.ntpThread.inLoop = true →
      second.ntpThread.inLoop = true → i = j
  isOpen : ∀ (i : Nat) (session : SenderSession), server.sessions[i]? = some session →
    session.ntpThread.inLoop = true →
      server.library.initial = false ∧ (server.library.descriptors 0).isSome = true

section Threads

variable {server next : Server}

@[simp]
theorem put_library (i : Nat) (thread : ServerThread) :
    (server.put i thread).library = server.library := rfl

theorem put_getElem? (i j : Nat) (thread : ServerThread) :
    (server.put i thread).sessions[j]? = server.sessions[j]?.map fun session =>
      if i = j then { session with ntpThread := thread } else session := by
  simp [put, List.getElem?_modify]

/-- A session after one thread has moved on is that session or is as it was. -/
theorem session_put {i j : Nat} {thread : ServerThread} {session : SenderSession}
    (hSession : (server.put i thread).sessions[j]? = some session) :
    ∃ old, server.sessions[j]? = some old ∧ session.isRunning = old.isRunning ∧
      session.ntpThread = if i = j then thread else old.ntpThread := by
  rw [put_getElem?] at hSession
  obtain ⟨old, hOld, rfl⟩ := Option.map_eq_some_iff.mp hSession
  refine ⟨old, hOld, ?_, ?_⟩ <;> split_ifs <;> rfl

theorem getElem?_put_self {i : Nat} {session : SenderSession} (thread : ServerThread)
    (hSession : server.sessions[i]? = some session) :
    (server.put i thread).sessions[i]? = some { session with ntpThread := thread } := by
  rw [put_getElem?, hSession]
  simp

/-- A thread that stays out of the loop, or was in it already, adds no second server. -/
theorem one_put (hOne : server.OneServer) {i : Nat} {thread : ServerThread}
    {session : SenderSession} (hSession : server.sessions[i]? = some session)
    (hThread : thread.inLoop = true → session.ntpThread.inLoop = true ∨
      ∀ (j : Nat) (other : SenderSession), server.sessions[j]? = some other →
        other.ntpThread.inLoop = false) :
    ∀ (j k : Nat) (first second : SenderSession), (server.put i thread).sessions[j]? = some first →
      (server.put i thread).sessions[k]? = some second → first.ntpThread.inLoop = true →
      second.ntpThread.inLoop = true → j = k := by
  -- Every server after the step is one before it, or the thread that has entered.
  have hBefore (j : Nat) (other : SenderSession)
      (hOther : (server.put i thread).sessions[j]? = some other)
      (hLoop : other.ntpThread.inLoop = true) :
      (∃ old, server.sessions[j]? = some old ∧ old.ntpThread.inLoop = true) ∨
        (j = i ∧ ∀ (k : Nat) (old : SenderSession), server.sessions[k]? = some old →
          old.ntpThread.inLoop = false) := by
    obtain ⟨old, hOld, -, hSame⟩ := session_put hOther
    rw [hSame] at hLoop
    split_ifs at hLoop with hIndex
    · subst hIndex
      rcases hThread hLoop with hIn | hNone
      · exact Or.inl ⟨session, hSession, hIn⟩
      · exact Or.inr ⟨rfl, hNone⟩
    · exact Or.inl ⟨old, hOld, hLoop⟩
  intro j k first second hFirst hSecond hFirstLoop hSecondLoop
  rcases hBefore j first hFirst hFirstLoop with ⟨one, hOld, hIn⟩ | ⟨rfl, hNone⟩
  · rcases hBefore k second hSecond hSecondLoop with ⟨other, hOther, hOtherIn⟩ | ⟨-, hNone⟩
    · exact hOne.one j k one other hOld hOther hIn hOtherIn
    · simp [hNone j one hOld] at hIn
  · rcases hBefore k second hSecond hSecondLoop with ⟨other, hOther, hOtherIn⟩ | ⟨rfl, -⟩
    · simp [hNone k other hOther] at hOtherIn
    · rfl

/-- While one thread is in the loop, no other is, and its socket is open. -/
theorem alone (hOne : server.OneServer) {i : Nat} {session : SenderSession}
    (hSession : server.sessions[i]? = some session) (hLoop : session.ntpThread.inLoop = true)
    {thread : ServerThread} (hOut : thread.inLoop = false) (j : Nat) (other : SenderSession)
    (hOther : (server.put i thread).sessions[j]? = some other) :
    other.ntpThread.inLoop = false := by
  obtain ⟨old, hOld, -, hSame⟩ := session_put hOther
  rw [hSame]
  split_ifs with hIndex
  · exact hOut
  · cases hIn : old.ntpThread.inLoop with
    | false => rfl
    | true => exact absurd (hOne.one i j session old hSession hOld hLoop hIn) hIndex

/-- While a server is open, another cannot be started. -/
theorem openSocket_of_isSome {library : Library} (hInitial : library.initial = false)
    (hOpen : (library.descriptors 0).isSome = true) (fd port : Nat) :
    (library.openSocket 0 fd port).1 ≠ 0 := by
  rw [ne_eq, openSocket_fst, initialise_of_not_initial hInitial]
  exact Option.isSome_iff_ne_none.mp hOpen

/-- The step of one thread concerns only itself among those who have left the loop. -/
theorem running_put (hSurvives : server.Survives) {i : Nat} {thread : ServerThread}
    {library : Library} (hThread : thread.afterLoop = true → ∀ session : SenderSession,
      server.sessions[i]? = some session → session.isRunning = false)
    (j : Nat) (other : SenderSession)
    (hOther : ({ server with library := library }.put i thread).sessions[j]? = some other)
    (hAfter : other.ntpThread.afterLoop = true) : other.isRunning = false := by
  obtain ⟨old, hOld, hRunning, hSame⟩ := session_put hOther
  rw [hSame] at hAfter
  rw [hRunning]
  split_ifs at hAfter with hIndex
  · subst hIndex
    exact hThread hAfter old hOld
  · exact hSurvives.running j old hOld hAfter

/-- A thread that goes on in the loop changes nothing about who has left it. -/
theorem survives_put_inLoop (hSurvives : server.Survives) {i : Nat} {thread : ServerThread}
    {library : Library} {session : SenderSession} (hSession : server.sessions[i]? = some session)
    (hIn : thread.inLoop = true) (hStays : thread.afterLoop = false) :
    ({ server with library := library }.put i thread).Survives := by
  constructor
  · exact running_put hSurvives (by simp [hStays])
  · intro hNone
    have hSelf : ({ server with library := library }.put i thread).sessions[i]? =
        some { session with ntpThread := thread } := getElem?_put_self thread hSession
    simp [hNone i _ hSelf] at hIn

/-- What one step of a thread does. -/
inductive Moves (server : Server) (i fd : Nat) (session : SenderSession) : Server → Prop where
  | refused {port : Nat} (hThread : session.ntpThread = .starting)
      (hRefused : (server.library.openSocket 0 fd port).1 ≠ 0) :
      Moves server i fd session
        ({ server with library := (server.library.openSocket 0 fd port).2 }.put i .refused)
  | started {port : Nat} (hThread : session.ntpThread = .starting)
      (hStarted : (server.library.openSocket 0 fd port).1 = 0) :
      Moves server i fd session
        ({ server with library := (server.library.openSocket 0 fd port).2 }.put i .checking)
  | goesOn (hThread : session.ntpThread = .checking) (hRunning : session.isRunning = true) :
      Moves server i fd session (server.put i .serving)
  | stops (hThread : session.ntpThread = .checking) (hStopped : session.isRunning = false) :
      Moves server i fd session
        ({ server with library := server.library.closeSocket 0 }.put i .stopped)
  | served (hThread : session.ntpThread = .serving)
      (hRet : ¬ (0 < server.library.serve.1 ∨ server.library.serve.1 < -1)) :
      Moves server i fd session
        ({ server with library := server.library.serve.2 }.put i .checking)
  | leaves (hThread : session.ntpThread = .serving)
      (hRet : 0 < server.library.serve.1 ∨ server.library.serve.1 < -1) :
      Moves server i fd session
        ({ server with library := server.library.serve.2 }.put i .left)

theorem moves_of_advance {i fd : Nat} (hStep : server.step (.advance i fd) = some next) :
    ∃ session, server.sessions[i]? = some session ∧ Moves server i fd session next := by
  obtain ⟨session, hSession, hRun⟩ := Option.bind_eq_some_iff.mp hStep
  refine ⟨session, hSession, ?_⟩
  unfold runNTPServer at hRun
  cases hThread : session.ntpThread with
  | starting =>
      simp only [hThread] at hRun
      split_ifs at hRun with hRet
      · cases hRun
        exact Moves.refused hThread hRet
      · cases hRun
        exact Moves.started hThread (not_not.mp hRet)
  | checking =>
      simp only [hThread] at hRun
      split_ifs at hRun with hRunning
      · cases hRun
        exact Moves.goesOn hThread hRunning
      · cases hRun
        exact Moves.stops hThread (by simpa using hRunning)
  | serving =>
      simp only [hThread] at hRun
      split_ifs at hRun with hRet
      · cases hRun
        exact Moves.leaves hThread hRet
      · cases hRun
        exact Moves.served hThread hRet
  | refused => simp [hThread] at hRun
  | left => simp [hThread] at hRun
  | stopped => simp [hThread] at hRun

/-- A step that takes no thread into the loop and leaves open sockets open. -/
theorem OneServer.mono (hOne : server.OneServer)
    (hThreads : ∀ (i : Nat) (session : SenderSession), next.sessions[i]? = some session →
      session.ntpThread.inLoop = true →
      ∃ old, server.sessions[i]? = some old ∧ old.ntpThread.inLoop = true)
    (hInitial : next.library.initial = server.library.initial)
    (hOpen : (next.library.descriptors 0).isSome = (server.library.descriptors 0).isSome) :
    next.OneServer := by
  constructor
  · intro i j first second hFirst hSecond hFirstLoop hSecondLoop
    obtain ⟨one, hOld, hIn⟩ := hThreads i first hFirst hFirstLoop
    obtain ⟨other, hOther, hOtherIn⟩ := hThreads j second hSecond hSecondLoop
    exact hOne.one i j one other hOld hOther hIn hOtherIn
  · intro i session hSession hLoop
    obtain ⟨old, hOld, hIn⟩ := hThreads i session hSession hLoop
    rw [hInitial, hOpen]
    exact hOne.isOpen i old hOld hIn

/-- A step that adds nobody to those who have left the loop, and takes nobody out of it. -/
theorem Survives.mono (hSurvives : server.Survives)
    (hAfter : ∀ (i : Nat) (session : SenderSession), next.sessions[i]? = some session →
      session.ntpThread.afterLoop = true → ∃ old, server.sessions[i]? = some old ∧
        old.ntpThread.afterLoop = true ∧ (old.isRunning = false → session.isRunning = false))
    (hLoop : ∀ (i : Nat) (session : SenderSession), server.sessions[i]? = some session →
      session.ntpThread.inLoop = true →
      ∃ (j : Nat) (new : SenderSession), next.sessions[j]? = some new ∧ new.ntpThread.inLoop = true)
    (hOpen : server.library.initialise.descriptors 0 = none →
      next.library.initialise.descriptors 0 = none) : next.Survives := by
  constructor
  · intro i session hSession hLeft
    obtain ⟨old, hOld, hOldLeft, hRunning⟩ := hAfter i session hSession hLeft
    exact hRunning (hSurvives.running i old hOld hOldLeft)
  · intro hNone fd port
    rw [openSocket_fst]
    refine hOpen ((openSocket_fst server.library fd port).mp (hSurvives.restarts ?_ fd port))
    intro i session hSession
    cases hIn : session.ntpThread.inLoop with
    | false => rfl
    | true =>
        obtain ⟨j, new, hNew, hNewIn⟩ := hLoop i session hSession hIn
        simp [hNone j new hNew] at hNewIn

/-- A new session is not in its loop. -/
theorem session_append {i : Nat} {session : SenderSession}
    (hSession : (server.sessions ++ [⟨true, .starting⟩])[i]? = some session) :
    server.sessions[i]? = some session ∨ session.ntpThread = .starting := by
  rw [List.getElem?_append] at hSession
  split_ifs at hSession with hOld
  · exact Or.inl hSession
  · have hNew := List.mem_of_getElem? hSession
    rw [List.mem_singleton] at hNew
    exact Or.inr (by rw [hNew])

/-- `Stop` leaves the threads where they are. -/
theorem session_stop {i j : Nat} {session : SenderSession}
    (hSession : (server.sessions.modify i fun session => { session with isRunning := false })[j]? =
      some session) :
    ∃ old, server.sessions[j]? = some old ∧ session.ntpThread = old.ntpThread ∧
      (old.isRunning = false → session.isRunning = false) := by
  rw [List.getElem?_modify] at hSession
  obtain ⟨old, hOld, rfl⟩ := Option.map_eq_some_iff.mp hSession
  refine ⟨old, hOld, ?_, ?_⟩ <;> split_ifs <;> simp

/-- When a server starts, no other is in its loop. -/
theorem no_server_of_started (hOne : server.OneServer) {fd port : Nat}
    (hStarted : (server.library.openSocket 0 fd port).1 = 0) (i : Nat) (session : SenderSession)
    (hSession : server.sessions[i]? = some session) : session.ntpThread.inLoop = false := by
  cases hLoop : session.ntpThread.inLoop with
  | false => rfl
  | true =>
      obtain ⟨hInitial, hOpen⟩ := hOne.isOpen i session hSession hLoop
      exact absurd hStarted (openSocket_of_isSome hInitial hOpen fd port)

/-- A server that is refused finds another one's socket as it was. -/
theorem openSocket_keeps {library : Library} (hInitial : library.initial = false)
    (hOpen : (library.descriptors 0).isSome = true) (fd port : Nat) :
    (library.openSocket 0 fd port).2 = library := by
  simp [Library.openSocket, initialise_of_not_initial hInitial, hOpen]

theorem oneServer_moves {i fd : Nat} {session : SenderSession} (hOne : server.OneServer)
    (hSession : server.sessions[i]? = some session) (hMove : Moves server i fd session next) :
    next.OneServer := by
  have hOld {thread : ServerThread} (hOut : thread.inLoop = false) (j : Nat) (other : SenderSession)
      (hOther : (server.put i thread).sessions[j]? = some other)
      (hIn : other.ntpThread.inLoop = true) :
      ∃ old, server.sessions[j]? = some old ∧ old.ntpThread.inLoop = true := by
    obtain ⟨old, hOld, -, hSame⟩ := session_put hOther
    rw [hSame] at hIn
    split_ifs at hIn
    · simp [hOut] at hIn
    · exact ⟨old, hOld, hIn⟩
  cases hMove with
  | refused hThread hRefused =>
      refine ⟨one_put hOne hSession (by simp [ServerThread.inLoop]), fun j other hOther hIn => ?_⟩
      obtain ⟨old, hBefore, hOldIn⟩ := hOld rfl j other hOther hIn
      obtain ⟨hInitial, hOpen⟩ := hOne.isOpen j old hBefore hOldIn
      simp [openSocket_keeps hInitial hOpen, hInitial, hOpen]
  | started hThread hStarted =>
      refine ⟨one_put hOne hSession fun _ => Or.inr (no_server_of_started hOne hStarted), ?_⟩
      exact fun _ _ _ _ => ⟨openSocket_initial _ _ _ _, openSocket_opens hStarted⟩
  | goesOn hThread hRunning =>
      have hLoop : session.ntpThread.inLoop = true := by rw [hThread]; rfl
      exact ⟨one_put hOne hSession fun _ => Or.inl hLoop,
        fun _ _ _ _ => hOne.isOpen i session hSession hLoop⟩
  | stops hThread hStopped =>
      have hLoop : session.ntpThread.inLoop = true := by rw [hThread]; rfl
      refine ⟨one_put hOne hSession (by simp [ServerThread.inLoop]), fun j other hOther hIn => ?_⟩
      have hNone := alone hOne hSession hLoop (rfl : ServerThread.stopped.inLoop = false) j other
        hOther
      simp [hIn] at hNone
  | served hThread hRet =>
      have hLoop : session.ntpThread.inLoop = true := by rw [hThread]; rfl
      obtain ⟨hInitial, hOpen⟩ := hOne.isOpen i session hSession hLoop
      obtain ⟨hKeepsInitial, hKeepsOpen⟩ := serve_keeps server.library
      exact ⟨one_put hOne hSession fun _ => Or.inl hLoop,
        fun _ _ _ _ => ⟨hKeepsInitial.trans hInitial, hKeepsOpen.trans hOpen⟩⟩
  | leaves hThread hRet =>
      have hLoop : session.ntpThread.inLoop = true := by rw [hThread]; rfl
      refine ⟨one_put hOne hSession (by simp [ServerThread.inLoop]), fun j other hOther hIn => ?_⟩
      have hNone := alone hOne hSession hLoop (rfl : ServerThread.left.inLoop = false) j other
        hOther
      simp [hIn] at hNone

theorem oneServer_step {event : ServerEvent} (hOne : server.OneServer)
    (hStep : server.step event = some next) : next.OneServer := by
  cases event with
  | startStreaming portbase =>
      cases hStep
      refine hOne.mono (fun i session hSession hLoop => ?_) rfl rfl
      rcases session_append hSession with hOld | hNew
      · exact ⟨session, hOld, hLoop⟩
      · simp [hNew, ServerThread.inLoop] at hLoop
  | stop i =>
      cases hStep
      refine hOne.mono (fun j session hSession hLoop => ?_) rfl rfl
      obtain ⟨old, hOld, hThread, -⟩ := session_stop hSession
      exact ⟨old, hOld, by rw [← hThread]; exact hLoop⟩
  | datagram bytes =>
      cases hStep
      obtain ⟨hInitial, hOpen⟩ := arrive_keeps server.library bytes
      exact hOne.mono (fun i session hSession hLoop => ⟨session, hSession, hLoop⟩) hInitial hOpen
  | advance i fd =>
      obtain ⟨session, hSession, hMove⟩ := moves_of_advance hStep
      exact oneServer_moves hOne hSession hMove

/-- A step of a thread that is not before `msntp_serve` serves no datagram. -/
theorem servesAccepted_of_not_serving {i fd : Nat} {session : SenderSession}
    (hSession : server.sessions[i]? = some session) (hThread : session.ntpThread ≠ .serving) :
    server.ServesAccepted (.advance i fd) := by
  intro other hOther hServing
  cases hSession.symm.trans hOther
  exact absurd hServing hThread

/-- A thread is refused only while another one serves, which goes on. -/
theorem survives_refused {i fd port : Nat} {library : Library} {session : SenderSession}
    (hSurvives : server.Survives) (hSession : server.sessions[i]? = some session)
    (hOut : session.ntpThread.inLoop = false)
    (hRefused : (server.library.openSocket 0 fd port).1 ≠ 0) :
    ({ server with library := library }.put i .refused).Survives := by
  constructor
  · exact running_put hSurvives (by simp [ServerThread.afterLoop])
  · intro hNone
    refine absurd (hSurvives.restarts (fun j old hOld => ?_) fd port) hRefused
    by_cases hIndex : i = j
    · subst hIndex
      cases hSession.symm.trans hOld
      exact hOut
    · exact hNone j old (by simp [put_getElem?, hOld, hIndex])

/-- A thread that stops gives the socket back. -/
theorem survives_stops {i : Nat} {session : SenderSession} (hSurvives : server.Survives)
    (hSession : server.sessions[i]? = some session) (hStopped : session.isRunning = false)
    (hInitial : server.library.initial = false) :
    ({ server with library := server.library.closeSocket 0 }.put i .stopped).Survives := by
  constructor
  · refine running_put hSurvives fun _ old hOld => ?_
    cases hSession.symm.trans hOld
    exact hStopped
  · intro _ fd port
    rw [openSocket_fst, put_library]
    simp [Library.closeSocket, MAX_SOCKETS, hInitial]

/-- What a thread's step does to the property: it is lost by leaving the loop on a
return value, and only so. -/
theorem survives_moves {i fd : Nat} {session : SenderSession} (hOne : server.OneServer)
    (hSurvives : server.Survives) (hSession : server.sessions[i]? = some session)
    (hMove : Moves server i fd session next) :
    next.Survives ↔ server.ServesAccepted (.advance i fd) := by
  cases hMove with
  | refused hThread hRefused =>
      have hOut : session.ntpThread.inLoop = false := by rw [hThread]; rfl
      exact iff_of_true (survives_refused hSurvives hSession hOut hRefused)
        (servesAccepted_of_not_serving hSession (by simp [hThread]))
  | started hThread hStarted =>
      exact iff_of_true (survives_put_inLoop hSurvives hSession rfl rfl)
        (servesAccepted_of_not_serving hSession (by simp [hThread]))
  | goesOn hThread hRunning =>
      exact iff_of_true (survives_put_inLoop hSurvives hSession rfl rfl)
        (servesAccepted_of_not_serving hSession (by simp [hThread]))
  | stops hThread hStopped =>
      have hLoop : session.ntpThread.inLoop = true := by rw [hThread]; rfl
      obtain ⟨hInitial, -⟩ := hOne.isOpen i session hSession hLoop
      exact iff_of_true (survives_stops hSurvives hSession hStopped hInitial)
        (servesAccepted_of_not_serving hSession (by simp [hThread]))
  | served hThread hRet =>
      refine iff_of_true (survives_put_inLoop hSurvives hSession rfl rfl)
        fun other hOther hServing socket hSocket => ?_
      exact not_not.mp fun hRejects => hRet ((serve_fails_iff hSocket).mpr hRejects)
  | leaves hThread hRet =>
      have hLoop : session.ntpThread.inLoop = true := by rw [hThread]; rfl
      obtain ⟨hInitial, hOpen⟩ := hOne.isOpen i session hSession hLoop
      obtain ⟨hKeepsInitial, hKeepsOpen⟩ := serve_keeps server.library
      refine iff_of_false (fun hNext => ?_) fun hAccepts => ?_
      -- Nobody is in the loop any more, but the socket is still open.
      · refine openSocket_of_isSome (hKeepsInitial.trans hInitial) (hKeepsOpen.trans hOpen) fd 0
          (hNext.restarts (fun j other hOther => ?_) fd 0)
        exact alone hOne hSession hLoop (rfl : ServerThread.left.inLoop = false) j other hOther
      · obtain ⟨socket, hSocket⟩ := Option.isSome_iff_exists.mp hOpen
        exact (serve_fails_iff hSocket).mp hRet (hAccepts session hSession hThread socket hSocket)

theorem survives_step {event : ServerEvent} (hOne : server.OneServer)
    (hSurvives : server.Survives) (hStep : server.step event = some next) :
    next.Survives ↔ server.ServesAccepted event := by
  cases event with
  | startStreaming portbase =>
      cases hStep
      refine iff_of_true (hSurvives.mono (fun i session hSession hAfter => ?_)
        (fun i session hSession hLoop => ?_) id) trivial
      · rcases session_append hSession with hOld | hNew
        · exact ⟨session, hOld, hAfter, id⟩
        · simp [hNew, ServerThread.afterLoop] at hAfter
      · have hBound := (List.getElem?_eq_some_iff.mp hSession).1
        exact ⟨i, session, by rw [List.getElem?_append_left hBound, hSession], hLoop⟩
  | stop i =>
      cases hStep
      refine iff_of_true (hSurvives.mono (fun j session hSession hAfter => ?_)
        (fun j session hSession hLoop => ?_) id) trivial
      · obtain ⟨old, hOld, hThread, hRunning⟩ := session_stop hSession
        exact ⟨old, hOld, by rw [← hThread]; exact hAfter, hRunning⟩
      · refine ⟨j, _, by rw [List.getElem?_modify, hSession]; rfl, ?_⟩
        split_ifs <;> exact hLoop
  | datagram bytes =>
      cases hStep
      refine iff_of_true (hSurvives.mono (fun i session hSession hAfter =>
        ⟨session, hSession, hAfter, id⟩) (fun i session hSession hLoop =>
        ⟨i, session, hSession, hLoop⟩) fun hOpen => ?_) trivial
      obtain ⟨hInitial, hKeeps⟩ := arrive_keeps server.library bytes
      cases hFirst : server.library.initial with
      | true => simp [Library.initialise, hInitial, hFirst]
      | false =>
          rw [initialise_of_not_initial (hInitial.trans hFirst)]
          rw [initialise_of_not_initial hFirst] at hOpen
          rw [hOpen] at hKeeps
          exact Option.isSome_eq_false_iff.mp hKeeps |> Option.isNone_iff_eq_none.mp
  | advance i fd =>
      obtain ⟨session, hSession, hMove⟩ := moves_of_advance hStep
      exact survives_moves hOne hSurvives hSession hMove

theorem oneServer_initial : Server.initial.OneServer := by
  constructor <;> simp [Server.initial]

theorem survives_initial : Server.initial.Survives := by
  constructor
  · simp [Server.initial]
  · intro _ fd port
    rfl

/-- Over all sessions of a process and all datagrams, the time service survives
exactly as long as `msntp_serve` gets no datagram that it rejects. -/
theorem always_survives_iff (events : List ServerEvent) :
    Always step Survives Server.initial events ↔ Meets step ServesAccepted Server.initial events :=
  always_iff_meets OneServer (fun _ _ _ hOne hStep => oneServer_step hOne hStep)
    (fun _ _ _ hOne hSurvives hStep => survives_step hOne hSurvives hStep)
    oneServer_initial survives_initial events

/-- An empty datagram ends the service of a session that goes on. -/
theorem not_always_survives_empty_datagram :
    ¬ Always step Survives Server.initial
      [.startStreaming 10000, .advance 0 7, .datagram [], .advance 0 0, .advance 0 0] := by
  intro hAlways
  have hSurvives := hAlways.of_run rfl
  exact absurd (hSurvives.running 0 ⟨true, .left⟩ rfl rfl) (by decide)

end Threads

end Server

end AudioSync.Ntp
