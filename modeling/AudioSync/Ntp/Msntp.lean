import AudioSync.Basic

/-! libmsntp, as far as an SNTP server uses it: the socket table that outlives every
call, and what is made of a datagram. -/
namespace AudioSync.Ntp

/-- `MAX_SOCKETS`. -/
def MAX_SOCKETS : Nat := 10

/-- `NTP_PACKET_MIN` and `NTP_PACKET_MAX`. -/
def NTP_PACKET_MIN : Nat := 48

def NTP_PACKET_MAX : Nat := 68

/-- `NTP_REFERENCE`. -/
def NTP_REFERENCE : Nat := 16

/-- `NTP_VERSION_MAX`. -/
def NTP_VERSION_MAX : Nat := 4

/-- `NTP_STRATUM_MAX`. -/
def NTP_STRATUM_MAX : Nat := 15

/-- `NTP_ACTIVE`, `NTP_CLIENT` and `NTP_BROADCAST`. -/
def NTP_ACTIVE : Nat := 1

def NTP_CLIENT : Nat := 3

def NTP_BROADCAST : Nat := 5

/-- `EMSNTP_INTERNAL`. -/
def EMSNTP_INTERNAL : Int := -11

/-- An open UDP socket and the datagrams that wait on it. -/
structure Socket where
  fd : Nat
  port : Nat
  waiting : List (List Byte)
  deriving DecidableEq, Repr

/-- `initial` and `descriptors`, where -1 is `none`. -/
structure Library where
  initial : Bool
  descriptors : Nat → Option Socket

namespace Library

/-- The library when it is loaded: the descriptors are zero, not -1. -/
def loaded : Library := ⟨true, fun _ => some ⟨0, 0, []⟩⟩

def set (library : Library) (which : Nat) (socket : Option Socket) : Library :=
  { library with descriptors := fun i => if i = which then socket else library.descriptors i }

/-- The first thing `open_socket` does. -/
def initialise (library : Library) : Library :=
  ⟨false, if library.initial then fun _ => none else library.descriptors⟩

/-- `open_socket` in server mode, where `socket` and `bind` succeed. -/
def openSocket (library : Library) (which fd port : Nat) : Int × Library :=
  let library := library.initialise
  if MAX_SOCKETS ≤ which ∨ (library.descriptors which).isSome then (EMSNTP_INTERNAL, library)
  else (0, library.set which (some ⟨fd, port, []⟩))

/-- `msntp_close_socket`, where `close` succeeds. Its result is not used. -/
def closeSocket (library : Library) (which : Nat) : Library :=
  if MAX_SOCKETS ≤ which then library else library.set which none

/-- A datagram reaches the socket with this index, if that is open. -/
def arrive (library : Library) (which : Nat) (datagram : List Byte) : Library :=
  library.set which ((library.descriptors which).map fun socket =>
    { socket with waiting := socket.waiting ++ [datagram] })

end Library

/-- The fields of `ntp_data` that a server checks. `reference` counts units of
2^-32 seconds. -/
structure NtpData where
  status : Nat
  version : Nat
  mode : Nat
  stratum : Nat
  reference : Nat
  deriving DecidableEq, Repr

/-- The value of bytes in network order. -/
def bigEndian (bytes : List Byte) : Nat :=
  bytes.foldl (fun value byte => 256 * value + byte.toNat) 0

/-- `unpack_ntp`. -/
def unpackNtp (packet : List Byte) : NtpData where
  status := (packet.getD 0 0 >>> 6).toNat
  version := (packet.getD 0 0 >>> 3 &&& 7).toNat
  mode := (packet.getD 0 0 &&& 7).toNat
  stratum := (packet.getD 1 0).toNat
  reference := bigEndian ((packet.drop NTP_REFERENCE).take 8)

/-- `read_packet` in server mode, given what `recvfrom` writes: 0 for a request, 1 for
a rejected packet, 2 for a broadcast. -/
def readPacket (datagram : List Byte) : Int :=
  let receive := datagram.take (NTP_PACKET_MAX + 1)
  if receive.length < NTP_PACKET_MIN ∨ NTP_PACKET_MAX < receive.length then 1
  else
    let data := unpackNtp receive
    if data.mode = NTP_BROADCAST then 2
    else if (data.mode ≠ NTP_CLIENT ∧ data.mode ≠ NTP_ACTIVE) ∨ data.status ≠ 0 ∨
        data.version < 1 ∨ NTP_VERSION_MAX < data.version ∨ NTP_STRATUM_MAX < data.stratum then 1
    else if data.stratum ≠ 0 ∧ data.stratum ≠ NTP_STRATUM_MAX ∧ data.reference = 0 then 1
    else 0

/-- `run_server` for one datagram, where sending the answer succeeds. -/
def runServer (datagram : List Byte) : Int :=
  let i := readPacket datagram
  if i = 2 then 0 else i

/-- `msntp_serve`: -1 when nothing is waiting. -/
def Library.serve (library : Library) : Int × Library :=
  match library.descriptors 0 with
  | none => (EMSNTP_INTERNAL, library)
  | some socket =>
      match socket.waiting with
      | [] => (-1, library)
      | datagram :: rest =>
          (runServer datagram, library.set 0 (some { socket with waiting := rest }))

/-- The server takes this datagram for a request or a broadcast. -/
def Accepted (datagram : List Byte) : Prop := readPacket datagram ≠ 1

section Results

variable (datagram : List Byte)

theorem readPacket_cases : readPacket datagram = 0 ∨ readPacket datagram = 1 ∨
    readPacket datagram = 2 := by
  simp only [readPacket]
  split_ifs <;> simp

theorem runServer_eq_one : runServer datagram = 1 ↔ ¬ Accepted datagram := by
  unfold runServer Accepted
  rcases readPacket_cases datagram with h | h | h <;> simp [h]

theorem runServer_eq_zero : runServer datagram = 0 ↔ Accepted datagram := by
  unfold runServer Accepted
  rcases readPacket_cases datagram with h | h | h <;> simp [h]

end Results

section SocketTable

variable (library : Library) (which : Nat) (socket : Option Socket)

@[simp]
theorem set_descriptors : (library.set which socket).descriptors which = socket := by
  simp [Library.set]

@[simp]
theorem set_initial : (library.set which socket).initial = library.initial := rfl

/-- The server's socket can be opened when it is not open yet. -/
theorem openSocket_fst (library : Library) (fd port : Nat) :
    (library.openSocket 0 fd port).1 = 0 ↔ library.initialise.descriptors 0 = none := by
  unfold Library.openSocket
  cases hSocket : library.initialise.descriptors 0 <;> simp [hSocket, MAX_SOCKETS, EMSNTP_INTERNAL]

/-- `initialise` does something only once. -/
@[simp]
theorem initialise_of_not_initial {library : Library} (hInitial : library.initial = false) :
    library.initialise = library := by
  cases library
  simp_all [Library.initialise]

theorem openSocket_initial (library : Library) (which fd port : Nat) :
    (library.openSocket which fd port).2.initial = false := by
  simp only [Library.openSocket]
  split_ifs <;> rfl

theorem openSocket_opens {library : Library} {fd port : Nat}
    (hStarted : (library.openSocket 0 fd port).1 = 0) :
    ((library.openSocket 0 fd port).2.descriptors 0).isSome = true := by
  simp only [Library.openSocket] at hStarted ⊢
  split_ifs at hStarted ⊢ with hFail
  · cases hStarted
  · simp

/-- Serving leaves the socket open. -/
theorem serve_keeps (library : Library) :
    library.serve.2.initial = library.initial ∧
      (library.serve.2.descriptors 0).isSome = (library.descriptors 0).isSome := by
  unfold Library.serve
  cases hSocket : library.descriptors 0 with
  | none => simp [hSocket]
  | some socket => cases hWaiting : socket.waiting <;> simp [hSocket, hWaiting]

/-- On an open socket the result is -1, 0 or 1, the last for a rejected datagram. -/
theorem serve_fails_iff {library : Library} {socket : Socket}
    (hSocket : library.descriptors 0 = some socket) :
    (0 < library.serve.1 ∨ library.serve.1 < -1) ↔
      ¬ ∀ datagram ∈ socket.waiting.head?, Accepted datagram := by
  unfold Library.serve
  simp only [hSocket]
  cases hWaiting : socket.waiting with
  | nil => simp
  | cons datagram rest =>
      by_cases hAccepted : Accepted datagram
      · simp [(runServer_eq_zero datagram).mpr hAccepted, hAccepted]
      · simp [(runServer_eq_one datagram).mpr hAccepted, hAccepted]

/-- A datagram that arrives changes nothing about which sockets are open. -/
theorem arrive_keeps (library : Library) (datagram : List Byte) :
    (library.arrive 0 datagram).initial = library.initial ∧
      ((library.arrive 0 datagram).descriptors 0).isSome = (library.descriptors 0).isSome := by
  simp [Library.arrive]

end SocketTable

end AudioSync.Ntp
