import BpkMessenger.Text.Readers
import BpkMessenger.Client.Delivery
import BpkMessenger.Client.Ids
import BpkMessenger.Client.Order
import BpkMessenger.Interaction.System
import BpkMessenger.Client.Selection
import BpkMessenger.Client.Entrance
import BpkMessenger.Client.Login
import BpkMessenger.Client.Registration
import BpkMessenger.Client.Pairing
import BpkMessenger.Client.Waiting
import BpkMessenger.Server.Appending
import BpkMessenger.Server.Links
import BpkMessenger.Server.Names
import BpkMessenger.Server.Lookup
import BpkMessenger.Client.Tokens
import BpkMessenger.Client.Sharing
import BpkMessenger.Client.ChatRows
import BpkMessenger.Client.MessageRows
import BpkMessenger.Client.TrelloUrls
import BpkMessenger.Client.Confined
import BpkMessenger.Client.Shown
import BpkMessenger.Client.Told
import BpkMessenger.Client.Wire
import BpkMessenger.Client.Arrival
