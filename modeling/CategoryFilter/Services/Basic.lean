/-
The services that the pipeline asks.

`Services` holds what each of them answers in an operation, on each occasion that the operation has to ask
it; `Question` is what was asked, for the record of an operation's questions.
-/

import CategoryFilter.Failure
import CategoryFilter.Services.Message

namespace CategoryFilter

/-- The answers of the services in an operation, and the contents of the list files. A request to the local
filter names the domain and the category that it is about. The cloud is asked once for each category and the
lookup once for each key of a category, so that one of these answers may be given while another fails, even
where the questions are the same. -/
structure Services where
  checkFilter : FilterRequest → Except Failure FilterResponse
  membership : (category : String) → MembershipRequest → Except Failure MembershipResponse
  intel : (category key domain : String) → Except Failure IntelResponse
  /-- The content of a file in the directory of the list files. -/
  listFile : String → Except FileError ByteArray

/-- A question to one of the services. -/
inductive Question where
  | filter (request : FilterRequest)
  | membership (request : MembershipRequest)
  | intel (domain : String)
deriving Repr, DecidableEq

end CategoryFilter
