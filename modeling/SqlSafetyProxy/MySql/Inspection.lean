import SqlSafetyProxy.MySql.Framing
import SqlSafetyProxy.MySql.Handshake
import SqlSafetyProxy.MySql.Relay

/-!
# Inspectable sessions

The proxy passes the client's capabilities and its character set on to the
server.  Some capabilities change how later commands stand on the wire, and the
character set decides how the server reads their text.  Without those
capabilities, and in UTF-8, the text that the proxy reads in a query is the one
that the server executes.
-/

namespace SqlSafetyProxy.MySql

open SqlSafetyProxy.Wire SqlSafetyProxy.Runtime SqlSafetyProxy.Coroutine

/-! ## What a response asks for -/

section Commands

variable {deflate encrypt : Bytes → Bytes → Prop} {decodes : UInt8 → Bytes → Option String}
  {flags : Nat} {charset : UInt8}

end Commands

/-! ## What is let through -/

section Forwarded

variable {Γ : Type} {tools : Tools} {opts : ProxyOptions} {w : World adapter Γ}

end Forwarded

end SqlSafetyProxy.MySql
