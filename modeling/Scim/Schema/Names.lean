/-!
# Names of schemas

The URNs under which resources and messages name their schemas.
-/

namespace Scim.Schemas

def user : String := "urn:ietf:params:scim:schemas:core:2.0:User"

/-- The enterprise extension of users. -/
def enterpriseUser : String := "urn:ietf:params:scim:schemas:extension:enterprise:2.0:User"

def group : String := "urn:ietf:params:scim:schemas:core:2.0:Group"

def serviceProviderConfig : String :=
  "urn:ietf:params:scim:schemas:core:2.0:ServiceProviderConfig"

def resourceType : String := "urn:ietf:params:scim:schemas:core:2.0:ResourceType"

/-- The schema of schemas. -/
def schema : String := "urn:ietf:params:scim:schemas:core:2.0:Schema"

def listResponse : String := "urn:ietf:params:scim:api:messages:2.0:ListResponse"

def bulkResponse : String := "urn:ietf:params:scim:api:messages:2.0:BulkResponse"

def error : String := "urn:ietf:params:scim:api:messages:2.0:Error"

end Scim.Schemas
