import Rumor.Proofs.Api.Connection
import Rumor.Proofs.Frame.Grammar
import Rumor.Proofs.Hub

-- With nobody in between, the steps come to what the program does at once.
namespace Rumor.Hub

open Api (Bridge Connection Reaction)
open Rumor.Frame (Short Wrong Written)

variable {c c' c'' : Client} {b b' : Bridge} {deeds deeds' : Deeds} {reading : Reading}
  {fresh : MessageId} {bytes rest : Bytes} {turn : Api.Turn} {r r' : Reaction} {error : WireError}

-- A step of a connection with nobody in between.
def Client.Acts (s : Client × Bridge) (deed : Deed) (s' : Client × Bridge) : Prop :=
  s.1.Step s.2 deed s'.1 s'.2

theorem run_did {H : Digest} {h : Hub} {name : String}
    (run : Run Client.Acts (c, h.bridge) deeds (c', b')) (hc : h.clients name = some c) :
    Run (Step H) h (deeds.map (.did name)) ({ h with bridge := b' }.put name c') := by
  generalize hend : (c', b') = s at run
  induction run generalizing c' b' with
  | refl =>
      cases hend
      rw [List.map_nil, put_self hc]
      exact .refl
  | @step deeds s s' deed _ hs ih =>
      subst hend
      rw [List.map_append, ← put_put h name s.1 c' s.2 b']
      exact (ih rfl).step (.did (c := s.1) (by simp) hs)

-- What a connection comes to by steps of its own.
structure Alone (c : Client) (b : Bridge) (deeds : Deeds) (c' : Client) (r : Reaction) : Prop where
  run : Run Client.Acts (c, b) deeds (c', r.bridge)
  connection : c'.connection = r.connection
  written : deeds.lines.flatten = r.written
  writing : c'.writing = none
  stream : deeds.stream = []
  kept : .broke ∉ deeds ∧ .stopped ∉ deeds
  left : r.connection.isOpen = false → .left ∈ deeds

theorem Alone.trans (h : Alone c b deeds c' r) (h' : Alone c' r.bridge deeds' c'' r') :
    Alone c b (deeds ++ deeds') c'' { r' with written := r.written ++ r'.written } where
  run := h.run.append h'.run
  connection := h'.connection
  written := by rw [Deeds.lines_append, List.flatten_append, h.written, h'.written]
  writing := h'.writing
  stream := by rw [Deeds.stream_append, h.stream, h'.stream, List.append_nil]
  kept := by simp [h.kept, h'.kept]
  left hclosed := List.mem_append_right _ (h'.left hclosed)

theorem close_acts (hclosed : c.connection.isOpen = false) (hleft : c.left = false) :
    ∃ c', Run Client.Acts (c, b) [.left, .dropped] (c', (c.connection.close b).2) ∧
      c'.connection = (c.connection.close b).1 ∧ c'.writing = c.writing := by
  let left : Client := { c with left := true }
  let dropped : Client :=
    { left with connection := { c.connection with buffer := [], subscribed := false } }
  have hleave : Client.Acts (c, b) .left (left, _) := .leave hclosed hleft
  have hdrop : Client.Acts (left, _) .dropped (dropped, _) := .drop (b := { b with interest :=
    if c.connection.subscribed then (b.interest.unsubscribe c.connection.name).2 else b.interest })
      rfl
  rw [Connection.close_eq]
  exact ⟨dropped, (Run.single hleave).step hdrop, by simp [dropped, hclosed], rfl⟩

-- A connection that does not go on drops what it asked for.
theorem stop_alone (hopen : c.connection.isOpen = true) (hidle : c.writing = none)
    (hleft : c.left = false)
    (hnext : c.next? = some (reading, rest)) (hturn : reading.turn fresh c.connection b = turn)
    (hstops : turn.next ≠ .go) :
    ∃ deeds c', Alone c b deeds c' (turn.connection.ended turn.next.line turn.bridge) := by
  have hread : Client.Acts (c, b) (.read reading b turn) (c.after turn rest, turn.bridge) :=
    .read fresh hopen hidle hnext hturn
  have hclosed : (c.after turn rest).connection.isOpen = false := decide_eq_false hstops
  obtain ⟨c', hclose, hconnection, hwriting⟩ := close_acts (b := turn.bridge) hclosed hleft
  refine ⟨_, c', (Run.single hread).append hclose, ?_, ?_, hwriting.trans hidle, rfl, by simp,
    fun _ => by simp⟩
  · simp [hconnection, Connection.ended, Connection.close_eq, Client.after]
  · obtain ⟨next, connection, bridge⟩ := turn
    cases next with
    | go => exact absurd rfl hstops
    | close => rfl
    | reply r => exact List.append_nil r.line

theorem next?_of_frame {f : Frame} (hf : f.encode = .ok bytes)
    (hbuffer : c.connection.buffer = bytes ++ rest) : c.next? = some (.frame f, rest) := by
  have hfront : Frame.front c.connection.buffer = .frame f rest :=
    hbuffer ▸ Frame.front_of_encode hf rest
  have hlast : Frame.lastFront c.connection.buffer = some (.frame f rest) := by
    rw [Frame.lastFront, hfront]
  rw [Client.next?, hfront, hlast]
  split <;> simp_all

-- Frames are acted on one by one as they are all at once.
theorem frames_alone (fresh : MessageId) {frames : List Frame} (hwritten : Written frames bytes)
    {k : Connection}
    (hbuffer : c.connection = { k with buffer := bytes ++ rest }) (hopen : k.isOpen = true)
    (hidle : c.writing = none) (hleft : c.left = false) :
    let r := k.handleAll fresh b frames
    ∃ deeds c', (r.connection.isOpen = true → c'.ended = c.ended ∧ c'.left = false) ∧
      Alone c b deeds c' { r with connection :=
        if r.connection.isOpen then { r.connection with buffer := rest } else r.connection } := by
  induction hwritten generalizing c k b with
  | nil =>
      have hconnection : c.connection = if k.isOpen then { k with buffer := rest } else k := by
        rw [if_pos hopen]
        exact hbuffer
      exact ⟨[], c, fun _ => ⟨rfl, hleft⟩, .refl, hconnection, rfl, hidle, rfl, by simp,
        fun hclosed => by simp [Connection.handleAll, hopen] at hclosed⟩
  | @cons f frames first more hf _ ih =>
      let turn := k.onFrame fresh f b
      have hnext : c.next? = some (.frame f, more ++ rest) :=
        next?_of_frame hf (by rw [hbuffer, List.append_assoc])
      have hturn : (Reading.frame f).turn fresh c.connection b =
          ⟨turn.next, { turn.connection with buffer := first ++ more ++ rest }, turn.bridge⟩ := by
        rw [Reading.turn, hbuffer, Connection.onFrame_buffer]
      have hopen' : c.connection.isOpen = true := by rw [hbuffer, hopen]
      by_cases hgo : turn.next = .go
      · let c₁ := c.after ((Reading.frame f).turn fresh c.connection b) (more ++ rest)
        have hkept : turn.connection.isOpen = true := Connection.onFrame_isOpen.trans hopen
        have hconnection : c₁.connection = { turn.connection with buffer := more ++ rest } := by
          simp [c₁, Client.after, hturn, hgo, hkept]
        have hread : Alone c b [.read (.frame f) b ((Reading.frame f).turn fresh c.connection b)] c₁
            ⟨[], c₁.connection, turn.bridge⟩ := by
          have hbridge : turn.bridge = ((Reading.frame f).turn fresh c.connection b).bridge := by
            rw [hturn]
          have hstep :
              Client.Acts (c, b) (.read (.frame f) b ((Reading.frame f).turn fresh c.connection b))
                (c₁, turn.bridge) :=
            hbridge ▸ .read fresh hopen' hidle hnext rfl
          exact ⟨.single hstep, rfl, by simp [hturn, hgo, Deeds.lines, Deed.line?], hidle, rfl,
            by simp, fun hclosed => by simp [hconnection, hkept] at hclosed⟩
        obtain ⟨deeds, c', hmore, hrest⟩ := ih (c := c₁) (k := turn.connection) (b := turn.bridge)
          hconnection hkept hidle hleft
        rw [Connection.handleAll_of_go hgo hopen]
        exact ⟨_, c', hmore, hread.trans hrest⟩
      · obtain ⟨deeds, c', halone⟩ := stop_alone hopen' hidle hleft hnext hturn hgo
        have hclosed := Connection.ended_isOpen turn.next.line turn.connection turn.bridge
        have hended := Connection.ended_buffer (c := turn.connection) (b := turn.bridge)
          turn.next.line (first ++ more ++ rest) turn.connection.isOpen
        rw [Connection.handleAll_of_stop hgo]
        refine ⟨deeds, c', fun hopen => absurd (hclosed.symm.trans hopen) Bool.false_ne_true, ?_⟩
        rw [if_neg (by simp [turn, hclosed])]
        exact hended ▸ halone

theorem Alone.stop (fresh : MessageId) {next : Api.Next}
    (h : Alone c b deeds c' { r with connection := { r.connection with buffer := rest } })
    (hopen : r.connection.isOpen = true) (hleft : c'.left = false) (hsilent : r.written = [])
    (hnext : c'.next? = some (reading, bytes))
    (hturn : reading.turn fresh c'.connection r.bridge = ⟨next, c'.connection, r.bridge⟩)
    (hstops : next ≠ .go) :
    ∃ deeds' c'', Alone c b deeds' c'' (r.connection.ended next.line r.bridge) := by
  have hopen' : c'.connection.isOpen = true := by rw [h.connection, hopen]
  obtain ⟨deeds', c'', hstop⟩ := stop_alone hopen' h.writing hleft hnext hturn hstops
  have hended :=
    Connection.ended_buffer (c := r.connection) (b := r.bridge) next.line rest r.connection.isOpen
  rw [h.connection] at hstop
  have hboth := h.trans hstop
  rw [hsilent] at hboth
  exact ⟨_, c'', hended ▸ hboth⟩

theorem next?_of_wrong (h : Wrong c.connection.buffer error) :
    ∃ rest, c.next? = some (.fault error, rest) := by
  obtain ⟨rest, hfront⟩ := Frame.front_of_wrong h
  have hlast : Frame.lastFront c.connection.buffer = some (.fault error rest) := by
    rw [Frame.lastFront, hfront]
  refine ⟨rest, ?_⟩
  rw [Client.next?, hfront, hlast]
  split <;> simp_all

section Taken

variable {frames : List Frame} {k : Connection} (hwritten : Written frames bytes)
  (hopen : k.isOpen = true) (hidle : c.writing = none) (hleft : c.left = false)

include hwritten hopen hidle hleft

theorem wait_alone (hbuffer : c.connection = { k with buffer := bytes ++ rest }) :
    ∃ deeds c', Alone c b deeds c' (k.onTaken fresh ⟨frames, none, rest⟩ b) := by
  obtain ⟨deeds, c', _, halone⟩ := frames_alone (b := b) fresh hwritten hbuffer hopen hidle hleft
  refine ⟨deeds, c', ?_⟩
  cases hon : (k.handleAll fresh b frames).connection.isOpen with
  | false =>
      rw [Connection.onTaken_of_closed hon]
      simpa [hon] using halone
  | true =>
      rw [Connection.onTaken_of_open hon]
      simpa [hon] using halone

theorem fault_alone (fresh : MessageId)
    (hbuffer : c.connection = { k with buffer := bytes ++ rest })
    (last : Bytes) (hstop : Wrong rest error ∨ Short rest error ∧ rest ≠ [] ∧ c.ended = true) :
    ∃ deeds c', Alone c b deeds c' (k.onTaken fresh ⟨frames, some error, last⟩ b) := by
  obtain ⟨deeds, c', hmore, halone⟩ :=
    frames_alone (b := b) fresh hwritten hbuffer hopen hidle hleft
  cases hon : (k.handleAll fresh b frames).connection.isOpen with
  | false =>
      rw [Connection.onTaken_of_closed hon]
      exact ⟨deeds, c', by simpa [hon] using halone⟩
  | true =>
      rw [Connection.onTaken_of_fault hon]
      obtain ⟨hended, hstays⟩ := hmore hon
      rw [if_pos hon] at halone
      have hrest : c'.connection.buffer = rest := by rw [halone.connection]
      obtain ⟨more, hnext⟩ : ∃ more, c'.next? = some (.fault error, more) := by
        rcases hstop with hwrong | ⟨hshort, hne, hlast⟩
        · exact next?_of_wrong (hrest.symm ▸ hwrong)
        · have hfront := Frame.lastFront_of_short hshort hne
          exact ⟨rest, by simp [Client.next?, hended, hlast, hrest, hfront]⟩
      exact halone.stop fresh hon hstays (Connection.handleAll_written hon) hnext rfl (by simp)

theorem over_alone (fresh : MessageId) (hbuffer : c.connection = { k with buffer := bytes })
    (hended : c.ended = true) :
    let r := k.onTaken fresh ⟨frames, none, []⟩ b
    let answer := if r.connection.isOpen then r.connection.ended r.written r.bridge else r
    ∃ deeds c', Alone c b deeds c' answer := by
  rw [← List.append_nil bytes] at hbuffer
  obtain ⟨deeds, c', hmore, halone⟩ :=
    frames_alone (b := b) fresh hwritten hbuffer hopen hidle hleft
  cases hon : (k.handleAll fresh b frames).connection.isOpen with
  | false =>
      rw [Connection.onTaken_of_closed hon]
      exact ⟨deeds, c', by simpa [hon] using halone⟩
  | true =>
      rw [Connection.onTaken_of_open hon]
      obtain ⟨hlast, hstays⟩ := hmore hon
      rw [if_pos hon] at halone
      have hrest : c'.connection.buffer = [] := by rw [halone.connection]
      have hnext : c'.next? = some (.ended, []) := by
        simp [Client.next?, hlast, hended, hrest, Frame.lastFront_nil]
      have hclosed :=
        halone.stop fresh hon hstays (Connection.handleAll_written hon) hnext rfl (by simp)
      have hsame := Connection.ended_buffer (c := (k.handleAll fresh b frames).connection)
        (b := (k.handleAll fresh b frames).bridge) [] [] true
      simpa [hon, Connection.handleAll_written hon, hsame, Api.Next.line] using hclosed

end Taken

-- What comes in is acted on as far as it goes.
theorem receive_alone (fresh : MessageId) (bytes : Bytes) (b : Bridge)
    (hopen : c.connection.isOpen = true) (hidle : c.writing = none) (hleft : c.left = false) :
    ∃ deeds c', Alone (c.gets bytes) b deeds c' (c.connection.receive fresh bytes b) := by
  obtain ⟨frames, written, rest, hbuffer, hwritten, hstop⟩ :=
    Frame.exists_written (c.connection.buffer ++ bytes)
  have hgets : (c.gets bytes).connection = { c.connection with buffer := written ++ rest } := by
    rw [Client.gets_of_open hopen, hbuffer]
  have hkept : (c.gets bytes).writing = none ∧ (c.gets bytes).left = false := by
    rw [Client.gets_of_open hopen]
    exact ⟨hidle, hleft⟩
  rw [Connection.receive, if_pos hopen, hbuffer, Frame.takeAll_written hwritten]
  rcases hstop with ⟨error, hshort⟩ | ⟨error, hwrong⟩
  · rw [Frame.takeAll_of_incomplete (Frame.front_of_short hshort)]
    simpa [Frame.Taken.behind] using wait_alone hwritten hopen hkept.1 hkept.2 hgets
  · obtain ⟨last, hfront⟩ := Frame.front_of_wrong hwrong
    rw [Frame.takeAll_of_fault hfront]
    simpa [Frame.Taken.behind] using
      fault_alone hwritten hopen hkept.1 hkept.2 fresh hgets last (Or.inl hwrong)

-- At the end, what is left is acted on and the connection closes.
theorem finish_alone (fresh : MessageId) (b : Bridge) (hopen : c.connection.isOpen = true)
    (hidle : c.writing = none) (hleft : c.left = false) :
    ∃ deeds c', Alone { c with ended := true } b deeds c' (c.connection.finish fresh b) := by
  obtain ⟨frames, written, rest, hbuffer, hwritten, hstop⟩ :=
    Frame.exists_written c.connection.buffer
  rw [Connection.finish, if_pos hopen, hbuffer, Frame.takeLast_written hwritten]
  by_cases hrest : rest = []
  · rw [hrest, List.append_nil] at hbuffer
    rw [hrest, Frame.takeLast_nil]
    have hover := over_alone (c := { c with ended := true }) (b := b) (k := c.connection) hwritten
      hopen hidle hleft fresh (by rw [← hbuffer]) rfl
    simpa [Frame.Taken.behind] using hover
  · obtain ⟨error, hwrong⟩ : ∃ error, Short rest error ∨ Wrong rest error := by
      rcases hstop with ⟨error, hshort⟩ | ⟨error, hwrong⟩
      · exact ⟨error, Or.inl hshort⟩
      · exact ⟨error, Or.inr hwrong⟩
    have hlast : Frame.takeLast rest = ⟨[], some error, (Frame.takeLast rest).rest⟩ := by
      obtain ⟨hframes, herror⟩ := Frame.error_takeLast hrest hwrong
      rw [← hframes, ← herror]
    have hfault := fault_alone (c := { c with ended := true }) (b := b) (k := c.connection) hwritten
      hopen hidle hleft fresh (by rw [← hbuffer]) (Frame.takeLast rest).rest
      (hwrong.symm.imp_right fun hshort => ⟨hshort, hrest, rfl⟩)
    rw [hlast]
    simp only [Frame.Taken.behind, List.append_nil]
    rw [if_neg (by simp [Connection.onTaken_isOpen])]
    exact hfault

-- The note that has waited longest is written, or ends the connection.
theorem writeNext_alone (hopen : c.connection.isOpen = true) (hidle : c.writing = none)
    (hleft : c.left = false) (hwrite : c.connection.writeNext? b = some r) :
    ∃ (deeds : Deeds) (c' : Client), Run Client.Acts (c, b) deeds (c', r.bridge) ∧
      c'.connection = r.connection ∧
      c'.writing = none ∧ deeds.written.flatMap (·.2) = r.written := by
  obtain ⟨note, q, hwaits⟩ := Connection.exists_waits_of_writeNext? hwrite
  let picked : Client := { c with writing := some note }
  let b₁ : Bridge := { b with boxes := b.boxes.set c.connection.name q }
  have hpick : Client.Acts (c, b) (.picked note) (picked, b₁) := .pick hopen hidle hwaits
  cases hframe : (Api.noteFrame note).encode with
  | ok bytes =>
      obtain rfl :=
        Option.some.inj ((Connection.writeNext?_of_encode hwaits hframe).symm.trans hwrite)
      have hwrote : Client.Acts (picked, b₁) (.wrote note bytes) ({ c with writing := none }, b₁) :=
        .write rfl hframe
      exact ⟨_, _, (Run.single hpick).step hwrote, rfl, rfl, List.append_nil bytes⟩
  | error error =>
      obtain rfl :=
        Option.some.inj ((Connection.writeNext?_of_error hwaits hframe).symm.trans hwrite)
      have hlost : Client.Acts (picked, b₁) .broke (picked.closed, b₁) := .lose hopen
      obtain ⟨c', hclose, hconnection, hwriting⟩ :=
        close_acts (c := picked.closed) (b := b₁) rfl hleft
      refine ⟨_, c', ((Run.single hpick).step hlost).append hclose, ?_, hwriting, rfl⟩
      rw [hconnection, Connection.ended, Connection.close_eq, Connection.close_eq]
      rfl

section Forward

variable {H : Digest} {h : Hub} {note : Note}

theorem sending_alone {names : List String} (hsending : h.dispatcher = .sending note names) :
    ∃ works : List Work, Run (Step H) h (works.map .worked) { h with
      bridge := { h.bridge with boxes := (h.bridge.boxes.deliver names note).2 }
      dispatcher := .idle } ∧ .forwarded note ∈ works := by
  simp only [Mailboxes.deliver_snd]
  induction names generalizing h with
  | nil => exact ⟨[.forwarded note], .single (.forward hsending), List.mem_cons_self⟩
  | cons name names ih =>
      let h₁ : Hub := { h with
        bridge := { h.bridge with boxes := (h.bridge.boxes.offer name note).2 }
        dispatcher := .sending note names }
      obtain ⟨works, hrun, hforwarded⟩ := ih (h := h₁) rfl
      exact ⟨_ :: works, (Run.single (.offer hsending)).append hrun,
        List.mem_cons_of_mem _ hforwarded⟩

-- The note goes to all who asked for its datatype, whatever their queues are like.
theorem forward_alone (hholding : h.dispatcher = .holding note) :
    ∃ works : List Work, Run (Step H) h (works.map .worked)
      { h with bridge := (h.bridge.forward note).2, dispatcher := .idle } := by
  have hlook : Step H h _ _ := .look hholding (List.Perm.refl _)
  obtain ⟨works, hrun, _⟩ := sending_alone (H := H) (h := { h with
    dispatcher := .sending note (h.bridge.interest.subscribers note.datatype) }) rfl
  exact ⟨_ :: works, (Run.single hlook).append hrun⟩

end Forward

end Rumor.Hub
